import SpecLint.Number.Binary64

/-!
The shortest decimal digits of a binary floating point number: of the decimals that read back as
the number, those with the fewest digits, and of them the nearest. All arithmetic is exact.
-/

namespace SpecLint

/-- A positive decimal `d.ddd * 10 ^ exponent`; the digits carry no trailing zero. -/
structure Decimal where
  /-- The digits as one natural number. -/
  digits : Nat
  /-- The power of ten of the first digit. -/
  exponent : Int
deriving DecidableEq, Repr

namespace Decimal

/-- Digits without trailing zeros; the fuel bounds the number of zeros. -/
def dropZeros : (fuel digits : Nat) → Nat
  | 0, digits => digits
  | fuel + 1, digits =>
    if digits != 0 && digits % 10 == 0 then dropZeros fuel (digits / 10) else digits

def text (d : Decimal) : List Char :=
  Nat.toDigits 10 d.digits

end Decimal

namespace Binary64

/-- The interval of the reals that round to a magnitude: its ends and the magnitude itself over a
common denominator, and whether the ends belong to it. -/
structure Interval where
  low : Nat
  value : Nat
  high : Nat
  denominator : Nat
  closed : Bool

/-- The reals that round to the magnitude of `x`. The neighbour below a power of two is at half the
distance of the one above, except below the least normal number. -/
def interval (x : Binary64) : Interval :=
  let m := x.significand
  let e := x.exponent - 2
  let below := if m == binade && x.exponent > -1074 then 4 * m - 1 else 4 * m - 2
  let scale := e.toNat
  { low := below <<< scale
    value := (4 * m) <<< scale
    high := (4 * m + 2) <<< scale
    denominator := 1 <<< (-e).toNat
    closed := m % 2 == 0 }

/-- Whether `num / den` rounds to the number of the interval. -/
def Interval.holds (i : Interval) (num den : Nat) : Bool :=
  let n := num * i.denominator
  let low := i.low * den
  let high := i.high * den
  if i.closed then low ≤ n && n ≤ high else low < n && n < high

/-- The power of ten of the first digit of `num / den`, from an estimate that is at most one too
large or too small. -/
def leadingPower (num den : Nat) : Int :=
  let reaches (k : Int) : Bool := den * Nat.pow 10 k.toNat ≤ num * Nat.pow 10 (-k).toNat
  let bits : Int := Int.ofNat num.log2 - Int.ofNat den.log2
  let k := bits * 30103 / 100000
  if reaches (k + 1) then k + 1
  else if reaches k then k
  else if reaches (k - 1) then k - 1
  else k - 2

/-- The decimal of `count` digits that is nearest to the interval's number among the grid's two
neighbours that read back, if one does. -/
def Interval.decimal? (i : Interval) (lead : Int) (count : Nat) : Option Decimal :=
  let unit : Int := lead - (Int.ofNat count - 1)
  let up := Nat.pow 10 unit.toNat
  let down := Nat.pow 10 (-unit).toNat
  let num := i.value * down
  let den := i.denominator * up
  let floor := num / den
  let rest := num % den
  let readsBack (digits : Nat) : Bool := i.holds (digits * up) down
  let lower := floor != 0 && readsBack floor
  let upper := readsBack (floor + 1)
  let pick (digits : Nat) : Decimal :=
    let exponent := if digits == Nat.pow 10 count then lead + 1 else lead
    ⟨Decimal.dropZeros 20 digits, exponent⟩
  match lower, upper with
  | true, true =>
    if 2 * rest < den || (2 * rest == den && floor % 2 == 0) then some (pick floor)
    else some (pick (floor + 1))
  | true, false => some (pick floor)
  | false, true => some (pick (floor + 1))
  | false, false => none

/-- The shortest decimal that reads back as the magnitude of a number that is not zero. Seventeen
digits always do. -/
def shortest (x : Binary64) : Decimal :=
  let i := x.interval
  let lead := leadingPower i.value i.denominator
  ((List.range 17).findSome? fun n => i.decimal? lead (n + 1)).getD ⟨0, 0⟩

end Binary64

end SpecLint
