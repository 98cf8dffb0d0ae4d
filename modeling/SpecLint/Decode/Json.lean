import SpecLint.Coordinate.Family
import SpecLint.Coordinate.Version
import SpecLint.Decode.Error
import SpecLint.Json.Text

/-!
Reading typed values from JSON values. Records are given as objects or as arrays of their fields in
order; alternatives without content as a name or as an object that maps the name to null. Of several
faults the first in the order of the keys is reported, and missing fields after all others.
-/

namespace SpecLint

/-- A value of the wanted kind, or why there is none. -/
abbrev Decoded (α : Type) := Except DecodeError α

namespace Json

/-- What a value is found to be. -/
def found : Json → Found
  | .null => .null
  | .boolean value => .boolean value
  | .number (.int value) => .integer value
  | .number (.float value) => .float (Layout.fractional.binary64 value)
  | .string text => .string text
  | .array _ => .sequence
  | .object _ => .map

/-- The error of a value of another kind. -/
def refuse {α : Type} (value : Json) (expected : String) : Decoded α :=
  .error (.invalidType value.found expected)

def decodeText : Json → Decoded String
  | .string text => .ok text
  | other => other.refuse "a string"

def decodeVersion (value : Json) : Decoded VersionTag := do
  let text ← value.decodeText
  (VersionTag.parse text).mapError .coordinate

def decodeFamily (value : Json) : Decoded Family := do
  let text ← value.decodeText
  (Family.parse text).mapError .coordinate

/-- A value, or null for none. -/
def decodeOption {α : Type} (decode : Json → Decoded α) : Json → Decoded (Option α)
  | .null => .ok none
  | value => (decode value).map some

def decodeList {α : Type} (decode : Json → Decoded α) : Json → Decoded (List α)
  | .array items => items.mapM decode
  | other => other.refuse "a sequence"

/-- One of several named alternatives without content. -/
def decodeName {α : Type} (all : List α) (name : α → String) (value : Json) : Decoded α :=
  let find (text : String) : Decoded α :=
    match all.find? (name · == text) with
    | some a => .ok a
    | none => .error (.unknownVariant text (all.map name))
  match value with
  | .string text => find text
  | .object [(key, content)] => do
    let a ← find key
    if content.isNull then .ok a else content.refuse "unit"
  | .object _ => .error .notSingleKey
  | other => other.refuse "string or map"

end Json

/-- The fields of a record as they were given. -/
structure Fields where
  /-- The names and values, in the order in which they are looked at. -/
  given : List (String × Json)
  /-- The error of a field that is not given. -/
  missing : String → DecodeError
  /-- The error of more values than fields, if there are more. -/
  surplus : Option DecodeError

namespace Fields

/-- The fields of a record called `name` in messages. -/
def ofJson (name : String) (fields : List String) : Json → Decoded Fields
  | .object members => .ok ⟨members, .missingField, none⟩
  | .array items =>
    let expected := name ++ " with " ++ toString fields.length ++ " elements"
    let surplus :=
      if fields.length < items.length then
        some (.invalidLength items.length "fewer elements in array")
      else none
    .ok ⟨fields.zip items, fun _ => .invalidLength items.length expected, surplus⟩
  | other => other.refuse name

/-- The first error among the given fields; fields without a reader are passed over. -/
def check (fields : Fields) (readers : List (String × (Json → Decoded Unit))) : Decoded Unit := do
  for (name, value) in fields.given do
    match readers.lookup name with
    | some read => read value
    | none => pure ()

/-- The value of a field that has to be given. -/
def required {α : Type} (fields : Fields) (name : String) (decode : Json → Decoded α) :
    Decoded α :=
  match fields.given.lookup name with
  | some value => decode value
  | none => .error (fields.missing name)

/-- The value of a field that may be left out. -/
def optional {α : Type} (fields : Fields) (name : String) (decode : Json → Decoded α)
    (absent : α) : Decoded α :=
  match fields.given.lookup name with
  | some value => decode value
  | none => .ok absent

/-- The record that was read, unless there are more values than fields. -/
def finish {α : Type} (fields : Fields) (record : α) : Decoded α :=
  match fields.surplus with
  | none => .ok record
  | some error => .error error

end Fields

end SpecLint
