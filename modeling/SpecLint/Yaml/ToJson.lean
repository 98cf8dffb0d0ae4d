import SpecLint.Json.Basic
import SpecLint.Yaml.Value

/-!
YAML values as JSON values. Tags are dropped, and keys that are numbers or truth values become their
texts; of two keys that become equal the later counts. Numbers that are not finite and other keys
have no JSON form.
-/

namespace SpecLint.Yaml

/-- Why a value has no JSON form. -/
inductive ConversionError where
  | notFinite (number : String)
  | unsupported (number : String)
  | key (described : String)
deriving DecidableEq, Repr

def ConversionError.message : ConversionError → String
  | .notFinite number => "cannot represent float " ++ number ++ " in JSON"
  | .unsupported number => "unsupported YAML number: " ++ number
  | .key described => "unsupported YAML map key: " ++ described

namespace Value

/-- The JSON form of a floating point number. -/
def floatingToJson : Floating → Except ConversionError Json
  | .finite value => .ok (.number (.float value))
  | .infinity negative => .error (.notFinite (if negative then "-inf" else "inf"))
  | .notANumber => .error (.notFinite "NaN")

/-- The JSON form of a number: as a signed integer if it is one, else as an unsigned one, else as a
floating point number. -/
def numberToJson (number : Number) : Except ConversionError Json :=
  match number.signed? with
  | some value => .ok (.number (.int value))
  | none =>
    match number.unsigned? with
    | some value => .ok (.number (.int value))
    | none =>
      match number.floating? with
      | some value => floatingToJson value
      | none => .error (.unsupported (described (.number number)))

def keyText : Value → Except ConversionError String
  | .string text => .ok text
  | .number value => .ok value.text
  | .boolean value => .ok (if value then "true" else "false")
  | other => .error (.key other.described)

mutual

/-- The JSON form of a value. -/
def toJson : Value → Except ConversionError Json
  | .null => .ok .null
  | .boolean value => .ok (.boolean value)
  | .number value => numberToJson value
  | .string text => .ok (.string text)
  | .sequence items => (itemsToJson items).map .array
  | .mapping entries => (entriesToJson entries).map .mkObject
  | .tagged _ value => toJson value

/-- The JSON forms of the items of a sequence. -/
def itemsToJson : List Value → Except ConversionError (List Json)
  | [] => .ok []
  | item :: rest =>
    match toJson item with
    | .error error => .error error
    | .ok item => (itemsToJson rest).map (item :: ·)

/-- The members that the entries of a mapping become, in the order of the mapping. -/
def entriesToJson : List (Value × Value) → Except ConversionError (List (String × Json))
  | [] => .ok []
  | (key, value) :: rest =>
    match keyText key with
    | .error error => .error error
    | .ok key =>
      match toJson value with
      | .error error => .error error
      | .ok value => (entriesToJson rest).map ((key, value) :: ·)

end

end Value

end SpecLint.Yaml
