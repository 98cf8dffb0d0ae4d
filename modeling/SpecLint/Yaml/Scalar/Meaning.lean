import SpecLint.Number.Decimal
import SpecLint.Number.Layout

/-!
What plain texts mean: nothing, a truth value, a number or just the text. Integers may be written in
four bases; a decimal with a leading zero is no number.
-/

namespace SpecLint.Yaml

/-- Whether an integer fits into 64 bits, signed or unsigned. -/
def isSmall (n : Int) : Bool := -0x8000000000000000 ≤ n && n ≤ 0xFFFFFFFFFFFFFFFF

/-- Whether an integer fits into 128 bits, signed or unsigned. -/
def isLarge (n : Int) : Bool :=
  -0x80000000000000000000000000000000 ≤ n && n ≤ 0xFFFFFFFFFFFFFFFFFFFFFFFFFFFFFFFF

/-- A floating point number of 64 bits. -/
inductive Floating where
  | finite (value : Binary64)
  | infinity (negative : Bool)
  | notANumber
deriving DecidableEq, Repr

/-- A number: an integer of 64 bits, signed or unsigned, or a floating point number. -/
inductive Number where
  | int (value : Int) (small : isSmall value = true)
  | float (value : Floating)
deriving DecidableEq, Repr

namespace Number

/-- Numerical equality within one kind of number; zeros of either sign are equal. -/
def same : Number → Number → Bool
  | .int a _, .int b _ => a == b
  | .float (.finite a), .float (.finite b) => a == b || (a.isZero && b.isZero)
  | .float a, .float b => a == b
  | _, _ => false

def text : Number → String
  | .int value _ => toString value
  | .float (.finite value) => Layout.yaml.binary64 value
  | .float (.infinity negative) => if negative then "-.inf" else ".inf"
  | .float .notANumber => ".nan"

/-- The number as a signed integer. -/
def signed? : Number → Option Int
  | .int value _ => if value ≤ 0x7FFFFFFFFFFFFFFF then some value else none
  | .float _ => none

/-- The number as an unsigned integer. -/
def unsigned? : Number → Option Nat
  | .int value _ => if 0 ≤ value then some value.toNat else none
  | .float _ => none

/-- The number as a floating point number, which for an integer is the nearest one. -/
def floating? : Number → Option Floating
  | .int value _ => (Binary64.ofInt? value).map .finite
  | .float value => some value

end Number

/-- The meaning of a text without quotes. -/
inductive Meaning where
  | null
  | boolean (value : Bool)
  | number (value : Number)
  /-- An integer beyond 64 bits. -/
  | outOfRange
  | text
deriving DecidableEq, Repr

/-- Whether a text is one of the words for nothing. -/
def isNullWord (text : String) : Bool :=
  text == "null" || text == "Null" || text == "NULL" || text == "~"

/-- The truth value that a word stands for. -/
def booleanWord? (text : String) : Option Bool :=
  if text == "true" || text == "True" || text == "TRUE" then some true
  else if text == "false" || text == "False" || text == "FALSE" then some false
  else none

/-- Whether the text, without its sign, is a decimal of several digits that starts with a zero. -/
def isPaddedDecimal (text : List Char) : Bool :=
  match (Decimal.splitSign text).2 with
  | '0' :: c :: rest => (c :: rest).all Char.isDigit
  | _ => false

/-- The base and the digits of an integer without its sign. -/
def integerDigits : List Char → Nat × List Char
  | '0' :: 'x' :: rest => (16, rest)
  | '0' :: 'o' :: rest => (8, rest)
  | '0' :: 'b' :: rest => (2, rest)
  | text => (10, text)

/-- The integer that a text denotes, of any size. -/
def integer? (text : List Char) : Option Int :=
  if isPaddedDecimal text then none
  else
    let (negative, text) := Decimal.splitSign text
    let (base, digits) := integerDigits text
    (Decimal.natural? base digits).map fun n =>
      if negative then -(Int.ofNat n) else Int.ofNat n

/-- The floating point number that a text denotes. -/
def float? (text : String) : Option Number :=
  let signless := if text.startsWith "+" then (text.drop 1).toString else text
  let special? : Option Floating :=
    if signless == ".inf" || signless == ".Inf" || signless == ".INF" then some (.infinity false)
    else if text == "-.inf" || text == "-.Inf" || text == "-.INF" then some (.infinity true)
    else if text == ".nan" || text == ".NaN" || text == ".NAN" then some .notANumber
    else none
  match special?, text.toList with
  | some value, _ => some (.float value)
  | none, '+' :: '+' :: _ | none, '+' :: '-' :: _ => none
  | none, chars => (Decimal.float? chars).map fun value => .float (.finite value)

/-- The integer that a text denotes: one of 64 bits, or one out of range. -/
def integerMeaning? (text : String) : Option Meaning :=
  match integer? text.toList with
  | none => none
  | some n =>
    if h : isSmall n then some (.number (.int n h))
    else if isLarge n then some .outOfRange
    else none

/-- The meaning of a text without quotes. -/
def meaning (text : String) : Meaning :=
  if text == "" || isNullWord text then .null
  else
    match booleanWord? text, integerMeaning? text with
    | some value, _ => .boolean value
    | none, some meaning => meaning
    | none, none =>
      if isPaddedDecimal text.toList then .text
      else
        match float? text with
        | some number => .number number
        | none => .text

end SpecLint.Yaml
