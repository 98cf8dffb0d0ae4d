import SpecLint.Text.Search

/-!
The drafts of JSON Schema, in order of time.
-/

namespace SpecLint

/-- A draft of JSON Schema. -/
inductive Draft where
  | draft4
  | draft6
  | draft7
  | draft201909
  | draft202012
deriving DecidableEq, Repr

namespace Draft

/-- The place of a draft in time. -/
def year : Draft → Nat
  | .draft4 => 2013
  | .draft6 => 2017
  | .draft7 => 2018
  | .draft201909 => 2019
  | .draft202012 => 2020

/-- Whether a draft is as late as another. -/
def isFrom (draft first : Draft) : Bool := first.year ≤ draft.year

/-- The draft that a dialect names by a part of its text; the latest if it names none. -/
def ofDialect (dialect : Option String) : Draft :=
  let names (part : String) : Bool := dialect.any (Text.contains part)
  if names "draft-04" then .draft4
  else if names "draft-06" then .draft6
  else if names "draft-07" then .draft7
  else if names "2019-09" then .draft201909
  else .draft202012

end Draft

end SpecLint
