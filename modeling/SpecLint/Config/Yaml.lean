import SpecLint.Config.Basic
import SpecLint.Yaml.Reader

/-!
Configurations as YAML. Sections that are left out keep their standard content. Where a text is
wanted any scalar will do, as it is written; where a list or a mapping is wanted nothing at all counts
as an empty one. An error names the place of the value; one that arises only when the value is
checked names the place of the list or mapping around it.
-/

namespace SpecLint.Yaml

/-- A value of the wanted kind, or the place of the fault and the fault. -/
abbrev Placed (α : Type) := Except (String × DecodeError) α

/-- The place of a value in a mapping. -/
def placeOfKey (place : String) (key : Node) : String :=
  let key :=
    match key with
    | .scalar _ text _ => text
    | _ => "?"
  if place = "" then key else place ++ "." ++ key

/-- The place of a value in a list. -/
def placeOfIndex (place : String) (index : Nat) : String :=
  place ++ "[" ++ toString index ++ "]"

/-- What a number is found to be. -/
def Number.found : Number → Found
  | .int value _ => .integer value
  | .float (.finite value) => .float (Layout.fractional.binary64 value)
  | .float (.infinity negative) => .float (if negative then "-inf" else "inf")
  | .float .notANumber => .float "NaN"

/-- What a text is found to be. -/
def foundText (tag : Option String) (text : String) (plain : Bool) : Found :=
  let value :=
    match tag with
    | some tag =>
      if isLocalTag tag then if plain then plainValue text else .ok (.string text)
      else forcedValue tag text
    | none => if plain then plainValue text else .ok (.string text)
  match value with
  | .ok .null => .unit
  | .ok (.boolean value) => .boolean value
  | .ok (.number value) => value.found
  | _ => .string text

namespace Node

/-- What a node is found to be. -/
def found : Node → Found
  | .scalar tag text plain => foundText tag text plain
  | .sequence _ _ => .sequence
  | .mapping _ _ => .map

/-- The error of a node of another kind. -/
def refuse {α : Type} (place : String) (node : Node) (expected : String) : Placed α :=
  .error (place, .invalidType node.found expected)

def decodeText (place : String) (node : Node) (expected : String) : Placed String :=
  match node with
  | .scalar _ text _ => .ok text
  | other => other.refuse place expected

/-- A list; `item` reads the item at a place. -/
def decodeList {α : Type} (place : String) (node : Node) (item : String → Node → Placed α) :
    Placed (List α) :=
  match node with
  | .sequence _ items =>
    items.zipIdx.mapM fun (node, index) => item (placeOfIndex place index) node
  | .scalar _ "" true => .ok []
  | other => other.refuse place "a sequence"

/-- The entries of a mapping, called `expected` in messages. -/
def decodeEntries (place : String) (node : Node) (expected : String) :
    Placed (List (Node × Node)) :=
  match node with
  | .mapping _ entries => .ok entries
  | .scalar _ "" true => .ok []
  | other => other.refuse place expected

def decodeTexts (place : String) (node : Node) : Placed (List String) :=
  node.decodeList place fun place node => node.decodeText place "a string"

/-- A checked text; a failed check is placed at `outer`. -/
def decodeChecked {α : Type} (parse : String → Except CoordinateError α) (outer place : String)
    (node : Node) : Placed α :=
  match node.decodeText place "a string" with
  | .error error => .error error
  | .ok text => (parse text).mapError fun error => (outer, .coordinate error)

/-- The value of a field, unless it has one already. -/
def decodeOnce {α : Type} (place name : String) (former : Option α) (value : Placed α) :
    Placed (Option α) :=
  if former.isSome then .error (place, .repeatedField name) else value.map some

/-- The lists of a pattern by parts. -/
def decodeParts (place : String) (node : Node) : Placed Pattern := do
  let entries ← node.decodeEntries place "struct variant Pattern::Contains"
  let mut required : Option (List String) := none
  let mut forbidden : Option (List String) := none
  for (key, value) in entries do
    let texts := value.decodeTexts (placeOfKey place key)
    match ← key.decodeText place "field identifier" with
    | "all" => required ← decodeOnce place "all" required texts
    | "none" => forbidden ← decodeOnce place "none" forbidden texts
    | _ => pure ()
  return .contains (required.getD []) (forbidden.getD [])

/-- Whether a node has a tag of the document's own. -/
def hasLocalTag : Node → Bool
  | .scalar tag _ _ | .sequence tag _ | .mapping tag _ => tag.any isLocalTag

def decodePattern (place : String) (node : Node) : Placed Pattern :=
  if node.hasLocalTag then .error (place, .invalidType .tagged "enum Pattern")
  else
    match node with
    | .mapping _ [] => .error (place, .notSingleKey)
    | .mapping _ ((key, content) :: more) => do
      let kind ← key.decodeText place "variant identifier"
      let inner := placeOfKey place key
      let pattern ←
        match kind with
        | "equals" => (content.decodeText inner "a string").map .equals
        | "prefix" => (content.decodeText inner "a string").map .startsWith
        | "contains" => content.decodeParts inner
        | other => .error (place, .unknownVariant other Pattern.kinds)
      if more.isEmpty then return pattern else .error (place, .notSingleKey)
    | other =>
      match other.found with
      | .string kind => .error (place, Pattern.decodeBareKind kind)
      | found => .error (place, .invalidType found "enum Pattern")

def decodeRoute (place : String) (node : Node) : Placed Route := do
  let entries ← node.decodeEntries place "struct Route"
  let mut family : Option Family := none
  let mut pattern : Option Pattern := none
  let mut definition : Option String := none
  for (key, value) in entries do
    let inner := placeOfKey place key
    match ← key.decodeText place "field identifier" with
    | "family" =>
      family ← decodeOnce place "family" family (value.decodeChecked Family.parse place inner)
    | "pattern" => pattern ← decodeOnce place "pattern" pattern (value.decodePattern inner)
    | "definition" =>
      definition ← decodeOnce place "definition" definition (value.decodeText inner "a string")
    | _ => pure ()
  match family, pattern, definition with
  | some f, some p, some d => return ⟨f, p, d⟩
  | none, _, _ => .error (place, .missingField "family")
  | _, none, _ => .error (place, .missingField "pattern")
  | _, _, none => .error (place, .missingField "definition")

end Node

end SpecLint.Yaml

namespace SpecLint.Config

open Yaml

def sections : List String := ["versions", "unreleased", "prohibited", "amount_fields", "routes"]

/-- The definitions that families may not have. -/
def decodeProhibited (place : String) (node : Node) : Placed (FamilyTable (List String)) := do
  let entries ← node.decodeEntries place "a map"
  entries.foldlM (fun table (key, value) => do
    let family ← key.decodeChecked Family.parse place place
    let names ← value.decodeTexts (placeOfKey place key)
    return table.insert family names) .empty

/-- The configuration with the content of one section in place of the old one. -/
def decodeSection (config : Config) (name : String) (value : Node) : Placed Config := do
  match name with
  | "versions" =>
    let versions ← value.decodeList name fun place node =>
      node.decodeChecked VersionTag.parse name place
    return { config with versions }
  | "unreleased" =>
    return { config with unreleased := ← value.decodeChecked VersionTag.parse "" name }
  | "prohibited" => return { config with prohibited := ← decodeProhibited name value }
  | "amount_fields" => return { config with amountFields := ← value.decodeTexts name }
  | "routes" => return { config with routes := ⟨← value.decodeList name Node.decodeRoute⟩ }
  | other => .error ("", .unknownField other sections)

/-- The configuration with the content of sections, none of which may be met twice. -/
def decodeSections (config : Config) (met : List String) : List (Node × Node) → Placed Config
  | [] => .ok config
  | (key, value) :: rest =>
    match key.decodeText "" "field identifier" with
    | .error error => .error error
    | .ok name =>
      if met.contains name then .error ("", .repeatedField name)
      else
        match config.decodeSection name value with
        | .error error => .error error
        | .ok config => config.decodeSections (name :: met) rest

def decodeNode (node : Node) : Placed Config := do
  standard.decodeSections [] (← node.decodeEntries "" "struct LintConfig")

/-- The configuration of a text. A text that does not fit and is not even one YAML value is
malformed. -/
def decodeYaml (text : String) : Except ConfigError Config :=
  match parseNode text with
  | .error fault => .error (.malformed fault.message)
  | .ok node =>
    match decodeNode node, valueOf node with
    | .ok config, _ => .ok config
    | .error _, .error fault => .error (.malformed fault.message)
    | .error (place, error), .ok _ => .error (.unsuitable place error)

/-- The configuration of a text, if it can be used. -/
def parse (text : String) : Except ConfigError Config :=
  match decodeYaml text with
  | .error error => .error error
  | .ok config => config.validate.map fun _ => config

end SpecLint.Config
