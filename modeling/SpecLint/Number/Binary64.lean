/-!
Finite binary floating point numbers of 64 bits, in exact arithmetic. A number is its sign and
the rank of its magnitude among the finite magnitudes, so that every value of the type is a
number of the format and every number is written in one way. Arithmetic is rounding of the exact
quotient, ties to the even significand.
-/

namespace SpecLint

/-- A finite number of the format with 53 bits of precision and exponents from -1074. -/
structure Binary64 where
  /-- Whether the sign bit is set. -/
  negative : Bool
  /-- How many magnitudes of the format are smaller. -/
  rank : Fin 0x7FF0000000000000
deriving DecidableEq, Repr

namespace Binary64

def zero : Binary64 := ⟨false, 0⟩

instance : Inhabited Binary64 := ⟨zero⟩

/-- How many magnitudes lie between a power of two and the next, which is two to the power of 52. -/
def binade : Nat := 0x10000000000000

/-- The integer that is scaled by `exponent`. -/
def significand (x : Binary64) : Nat :=
  let r := x.rank.val
  if r < binade then r else binade + r % binade

/-- The power of two that scales `significand`. -/
def exponent (x : Binary64) : Int :=
  let r := x.rank.val
  if r < binade then -1074 else Int.ofNat (r / binade) - 1075

/-- Whether the number is a zero of either sign. -/
def isZero (x : Binary64) : Bool := x.rank.val == 0

/-- The number with the other sign. -/
def neg (x : Binary64) : Binary64 := { x with negative := !x.negative }

/-- The numerator of the magnitude over `denominator`. -/
def numerator (x : Binary64) : Nat :=
  x.significand <<< x.exponent.toNat

/-- A power of two over which the magnitude is an integer. -/
def denominator (x : Binary64) : Nat :=
  1 <<< (-x.exponent).toNat

def signedNumerator (x : Binary64) : Int :=
  if x.negative then -(Int.ofNat x.numerator) else Int.ofNat x.numerator

/-- The nearest integer to `num / den`; a half goes to the even neighbour. -/
def roundQuotient (num den : Nat) : Nat :=
  let q := num / den
  let r := num % den
  if 2 * r < den then q
  else if den < 2 * r then q + 1
  else q + q % 2

/-- The quotient `num / den` over a power of two, as a pair again. -/
def scaleQuotient (num den : Nat) (e : Int) : Nat × Nat :=
  (num <<< (-e).toNat, den <<< e.toNat)

/-- The number of the format that is nearest to `num / den`, ties to the even significand; none if
the magnitude is too large for it. -/
def ofQuotient? (negative : Bool) (num den : Nat) : Option Binary64 :=
  if num == 0 then some ⟨negative, 0⟩
  else
    let estimate : Int := Int.ofNat num.log2 - Int.ofNat den.log2 - 53
    let low := max estimate (-1074)
    let (n, d) := scaleQuotient num den low
    let e := if n / d < 2 * binade then low else low + 1
    let (n, d) := scaleQuotient num den e
    let r := (e + 1074).toNat * binade + roundQuotient n d
    if h : r < 0x7FF0000000000000 then some ⟨negative, ⟨r, h⟩⟩ else none

/-- The number nearest to a natural number. -/
def ofNat? (n : Nat) : Option Binary64 := ofQuotient? false n 1

/-- The number nearest to an integer. -/
def ofInt? (i : Int) : Option Binary64 := ofQuotient? (i < 0) i.natAbs 1

/-- The rounded product; none on overflow. -/
def mul? (x y : Binary64) : Option Binary64 :=
  ofQuotient? (x.negative != y.negative) (x.numerator * y.numerator) (x.denominator * y.denominator)

/-- The rounded quotient; none on overflow or if `y` is a zero. -/
def div? (x y : Binary64) : Option Binary64 :=
  if y.isZero then none
  else
    ofQuotient? (x.negative != y.negative) (x.numerator * y.denominator)
      (x.denominator * y.numerator)

/-- The number nearest to `digits * 10 ^ power`; none if it is too large. Powers far outside the
range of the format are decided by the number of digits, so no huge power is computed. -/
def ofDecimal? (negative : Bool) (digits : Nat) (power : Int) : Option Binary64 :=
  if digits == 0 then some ⟨negative, 0⟩
  else
    let length : Int := Int.ofNat (Nat.toDigits 10 digits).length
    if length + power > 400 then none
    else if length + power < -400 then some ⟨negative, 0⟩
    else ofQuotient? negative (digits * Nat.pow 10 power.toNat) (Nat.pow 10 (-power).toNat)

/-- Whether the number is an integer. -/
def isIntegral (x : Binary64) : Bool :=
  x.numerator % x.denominator == 0

def truncate (x : Binary64) : Int :=
  x.signedNumerator.tdiv (Int.ofNat x.denominator)

end Binary64

end SpecLint
