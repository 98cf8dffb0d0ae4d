import SpecLint.Number.Binary64

/-!
Numbers written in decimals: a sign, digits with at most one point among them, and an exponent. At
least one digit has to stand before the exponent.
-/

namespace SpecLint.Decimal

/-- The natural number that digits of a base denote; none without digits or with other characters. -/
def natural? (base : Nat) (digits : List Char) : Option Nat :=
  let value (c : Char) : Option Nat :=
    let n :=
      if c.isDigit then c.toNat - '0'.toNat
      else if 'a' ≤ c ∧ c ≤ 'f' then c.toNat - 'a'.toNat + 10
      else if 'A' ≤ c ∧ c ≤ 'F' then c.toNat - 'A'.toNat + 10
      else base
    if n < base then some n else none
  if digits.isEmpty then none
  else
    digits.foldl (fun total c => total.bind fun t => (value c).map (t * base + ·)) (some 0)

/-- Splits off a sign; true is the minus. -/
def splitSign : List Char → Bool × List Char
  | '-' :: rest => (true, rest)
  | '+' :: rest => (false, rest)
  | text => (false, text)

/-- The power of ten that an exponent denotes; an empty text denotes zero. -/
def exponent? : List Char → Option Int
  | [] => some 0
  | c :: rest =>
    if c = 'e' || c = 'E' then
      let (negative, digits) := splitSign rest
      (natural? 10 digits).map fun n => if negative then -(Int.ofNat n) else Int.ofNat n
    else none

/-- Splits off the digits after a point. -/
def splitFraction : List Char → List Char × List Char
  | '.' :: rest => (rest.takeWhile Char.isDigit, rest.dropWhile Char.isDigit)
  | text => ([], text)

/-- What a decimal denotes: whether it has a minus, its digits as one natural number, and the power of
ten that scales them. -/
def read? (text : List Char) : Option (Bool × Nat × Int) :=
  let (negative, text) := splitSign text
  let whole := text.takeWhile Char.isDigit
  let (fraction, rest) := splitFraction (text.dropWhile Char.isDigit)
  match natural? 10 (whole ++ fraction), exponent? rest with
  | some digits, some power => some (negative, digits, power - Int.ofNat fraction.length)
  | _, _ => none

/-- The floating point number nearest to the decimal, unless it is too large for the format. -/
def float? (text : List Char) : Option Binary64 :=
  match read? text with
  | some (negative, digits, power) => Binary64.ofDecimal? negative digits power
  | none => none

end SpecLint.Decimal
