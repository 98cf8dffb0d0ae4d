import SpecLint.Coordinate.Version
import SpecLint.Text.Quote

/-!
Why a value is not of the wanted kind, for values read from JSON and from YAML alike.
-/

namespace SpecLint

/-- What was found in place of something else. -/
inductive Found where
  | null
  | unit
  | boolean (value : Bool)
  | integer (value : Int)
  | float (text : String)
  | string (text : String)
  | sequence
  | map
  | tagged
  | unitVariant
deriving DecidableEq, Repr

/-- The wording of what was found. -/
def Found.text : Found → String
  | .null => "null"
  | .unit => "unit value"
  | .boolean value => "boolean `" ++ (if value then "true" else "false") ++ "`"
  | .integer value => "integer `" ++ toString value ++ "`"
  | .float text => "floating point `" ++ text ++ "`"
  | .string text => "string " ++ Text.quoted text
  | .sequence => "sequence"
  | .map => "map"
  | .tagged => "enum"
  | .unitVariant => "unit variant"

/-- Why a value is not of the wanted kind. -/
inductive DecodeError where
  | invalidType (found : Found) (expected : String)
  | invalidLength (length : Nat) (expected : String)
  | notSingleKey
  | unknownVariant (name : String) (expected : List String)
  | unknownField (name : String) (expected : List String)
  | missingField (name : String)
  | repeatedField (name : String)
  | coordinate (error : CoordinateError)
deriving DecidableEq, Repr

def expectedNames (names : List String) : String :=
  let marked := names.map fun name => "`" ++ name ++ "`"
  match marked with
  | [a, b] => "expected " ++ a ++ " or " ++ b
  | [a] => "expected " ++ a
  | _ => "expected one of " ++ ", ".intercalate marked

def DecodeError.message : DecodeError → String
  | .invalidType found expected => "invalid type: " ++ found.text ++ ", expected " ++ expected
  | .invalidLength length expected =>
    "invalid length " ++ toString length ++ ", expected " ++ expected
  | .notSingleKey => "invalid value: map, expected map with a single key"
  | .unknownVariant name expected =>
    "unknown variant `" ++ name ++ "`, " ++ expectedNames expected
  | .unknownField name expected => "unknown field `" ++ name ++ "`, " ++ expectedNames expected
  | .missingField name => "missing field `" ++ name ++ "`"
  | .repeatedField name => "duplicate field `" ++ name ++ "`"
  | .coordinate error => error.message

end SpecLint
