import SpecLint.Json.Equal
import SpecLint.Json.Text
import SpecLint.Validation.Format

/-!
Assertions: keywords that judge a value without looking at the schemas of its parts. An assertion
says of a value in which ways it fails; each way has its wording.
-/

namespace SpecLint.Validation

/-- The types that a schema can name, in the order of their names. -/
inductive TypeName where
  | array
  | boolean
  | integer
  | null
  | number
  | object
  | string
deriving DecidableEq, Repr

namespace TypeName

def all : List TypeName := [.array, .boolean, .integer, .null, .number, .object, .string]

def text : TypeName → String
  | .array => "array"
  | .boolean => "boolean"
  | .integer => "integer"
  | .null => "null"
  | .number => "number"
  | .object => "object"
  | .string => "string"

def ofText? (name : String) : Option TypeName := all.find? (·.text == name)

/-- Whether a value has the type. A floating point number that is an integer counts as one if
`wholeFloats` says so. -/
def admits (type : TypeName) (wholeFloats : Bool) : Json → Bool
  | .null => type == .null
  | .boolean _ => type == .boolean
  | .number (.int _) => type == .integer || type == .number
  | .number (.float x) => type == .number || (type == .integer && wholeFloats && x.isIntegral)
  | .string _ => type == .string
  | .array _ => type == .array
  | .object _ => type == .object

end TypeName

/-- A limit on a number. -/
inductive Bound where
  | minimum
  | maximum
  | exclusiveMinimum
  | exclusiveMaximum
deriving DecidableEq, Repr

namespace Bound

def keyword : Bound → String
  | .minimum => "minimum"
  | .maximum => "maximum"
  | .exclusiveMinimum => "exclusiveMinimum"
  | .exclusiveMaximum => "exclusiveMaximum"

/-- Whether a number keeps to the limit. -/
def admits : Bound → (limit value : Number) → Bool
  | .minimum, limit, value => !value.isLess limit
  | .maximum, limit, value => !limit.isLess value
  | .exclusiveMinimum, limit, value => limit.isLess value
  | .exclusiveMaximum, limit, value => value.isLess limit

/-- What a number that breaks the limit is. -/
def breach : Bound → String
  | .minimum => "less than the minimum of"
  | .maximum => "greater than the maximum of"
  | .exclusiveMinimum => "less than or equal to the minimum of"
  | .exclusiveMaximum => "greater than or equal to the maximum of"

end Bound

/-- What is counted in a value. -/
inductive Measure where
  | characters
  | items
  | properties
deriving DecidableEq, Repr

namespace Measure

/-- The count, for values that have one. -/
def count? : Measure → Json → Option Nat
  | .characters, .string s => some s.length
  | .items, .array content => some content.length
  | .properties, .object content => some content.length
  | _, _ => none

/-- What a value with too few or too many is. -/
def breach : Measure → (tooFew : Bool) → String
  | .characters, true => "is shorter than"
  | .characters, false => "is longer than"
  | _, true => "has less than"
  | _, false => "has more than"

/-- The name of what is counted. -/
def noun : Measure → (one : Bool) → String
  | .characters, true => "character"
  | .characters, false => "characters"
  | .items, true => "item"
  | .items, false => "items"
  | .properties, true => "property"
  | .properties, false => "properties"

end Measure

/-- A keyword that judges a value by itself. -/
inductive Assertion where
  | type (names : List TypeName) (listed wholeFloats : Bool)
  | enumeration (values : List Json)
  | constant (value : Json)
  | bound (kind : Bound) (limit : Number)
  | multipleOf (divisor : Binary64)
  | atLeast (measure : Measure) (limit : Nat)
  | atMost (measure : Measure) (limit : Nat)
  | uniqueItems
  | required (names : List String)
  | dependentRequired (table : List (String × List String))
  | pattern (text : String) (regex : Regex)
  | format (format : Format)

namespace Assertion

/-- The distance from one to the next floating point number. -/
def tolerance : Binary64 := ⟨false, ⟨(1023 - 52) * Binary64.binade, by decide⟩⟩

/-- Whether a number of floating point is as good as zero or negative. -/
def isNegligible (x : Binary64) : Bool :=
  x.negative || x.rank < tolerance.rank

/-- The distance between two numbers, rounded. -/
def distance? (x y : Binary64) : Option Binary64 :=
  Binary64.ofQuotient? false
    (x.signedNumerator * y.denominator - y.signedNumerator * x.denominator).natAbs
    (x.denominator * y.denominator)

/-- Whether a value is the wanted one; two numbers may be apart by less than `tolerance`. -/
def isConstant : (wanted value : Json) → Bool
  | .number a, .number b => (distance? a.nearest b.nearest).any isNegligible
  | wanted, value => wanted.isSame value

/-- The remainder of a number after division by one, with its sign. -/
def fraction (x : Binary64) : Binary64 :=
  (Binary64.ofQuotient? x.negative (x.numerator % x.denominator) x.denominator).getD .zero

/-- Whether a number is a multiple. For a divisor that is an integer the number has to be one, and
the remainder zero; for others the rounded quotient has no fraction worth the name, or the exact one
has none if the rounded one is out of range. -/
def isMultiple (divisor value : Binary64) : Bool :=
  if divisor.isIntegral then
    !divisor.isZero && value.isIntegral && value.truncate % divisor.truncate == 0
  else
    match value.div? divisor with
    | some quotient => isNegligible (fraction quotient)
    | none =>
      (value.numerator * divisor.denominator) % (value.denominator * divisor.numerator) == 0

/-- Required names that an object lacks. -/
def missing (names : List String) (members : Members) : List String :=
  names.filter fun name => !members.has name

/-- One failure, unless the value is as it should be. -/
@[macro_inline] def demand (holds : Bool) (message : String) : List String :=
  if holds then [] else [message]

/-- The names in quotes with commas between them. -/
def typeList (names : List TypeName) : String :=
  ", ".intercalate (names.map fun name => Json.quote name.text)

/-- In which ways a value fails. -/
def failures (assertion : Assertion) (value : Json) : List String :=
  let shown := value.compact
  match assertion with
  | .type names listed wholeFloats =>
    demand (names.any (·.admits wholeFloats value))
      (shown ++ (if listed then " is not of types " else " is not of type ") ++ typeList names)
  | .enumeration values =>
    demand (values.any (·.isSame value)) (shown ++ " is not one of " ++ (Json.array values).compact)
  | .constant wanted => demand (isConstant wanted value) (wanted.compact ++ " was expected")
  | .bound kind limit =>
    match value with
    | .number n =>
      demand (kind.admits limit n) (shown ++ " is " ++ kind.breach ++ " " ++ limit.text)
    | _ => []
  | .multipleOf divisor =>
    match value with
    | .number n =>
      demand (isMultiple divisor n.nearest)
        (shown ++ " is not a multiple of " ++ Layout.plain.binary64 divisor)
    | _ => []
  | .atLeast measure limit =>
    demand ((measure.count? value).all (limit ≤ ·))
      (shown ++ " " ++ measure.breach true ++ " " ++ toString limit ++ " " ++
        measure.noun (limit == 1))
  | .atMost measure limit =>
    demand ((measure.count? value).all (· ≤ limit))
      (shown ++ " " ++ measure.breach false ++ " " ++ toString limit ++ " " ++
        measure.noun (limit == 1))
  | .uniqueItems =>
    match value with
    | .array items => demand (!Json.hasTwins items) (shown ++ " has non-unique elements")
    | _ => []
  | .required names =>
    match value with
    | .object members =>
      (missing names members).map fun name => Json.quote name ++ " is a required property"
    | _ => []
  | .dependentRequired table =>
    match value with
    | .object members =>
      table.flatMap fun (name, names) =>
        if Members.has members name then
          (missing names members).map fun name => Json.quote name ++ " is a required property"
        else []
    | _ => []
  | .pattern text regex =>
    match value with
    | .string s => demand (regex.occursIn s) (shown ++ " does not match \"" ++ text ++ "\"")
    | _ => []
  | .format wanted =>
    match value with
    | .string s => demand (wanted.accepts s) (shown ++ " is not a \"" ++ wanted.name ++ "\"")
    | _ => []

end Assertion

end SpecLint.Validation
