import SpecLint.Number.Shortest

/-!
How a binary floating point number is written: which magnitudes are written in positions, and
what marks an exponent or an integer.
-/

namespace SpecLint

/-- The decisions of one way to write a number. -/
structure Layout where
  /-- The least power of ten of the first digit that is written in positions. -/
  leastPositional : Int
  /-- The greatest power of ten of the first digit that is written in positions. -/
  greatestPositional : Int
  /-- What follows an integer that is written in positions. -/
  integerMark : String
  /-- What stands before the digits of a positive exponent. -/
  positiveExponent : String
deriving Repr

namespace Layout

/-- Positions from `1e-5` to `1e15`, a fraction always shown, exponents with their sign. -/
def json : Layout := ⟨-5, 15, ".0", "+"⟩

/-- Positions from `1e-5` to `1e15`, a fraction always shown, no sign at positive exponents. -/
def yaml : Layout := ⟨-5, 15, ".0", ""⟩

/-- Positions at any size, and integers without a fraction. -/
def plain : Layout := ⟨-400, 400, "", ""⟩

/-- Positions at any size, a fraction always shown. -/
def fractional : Layout := ⟨-400, 400, ".0", ""⟩

def decimal (layout : Layout) (d : Decimal) : String :=
  let digits := d.text
  if layout.leastPositional ≤ d.exponent && d.exponent ≤ layout.greatestPositional then
    if d.exponent < 0 then
      "0." ++ String.ofList (List.replicate (-d.exponent - 1).toNat '0' ++ digits)
    else
      let whole := d.exponent.toNat + 1
      if digits.length ≤ whole then
        String.ofList (digits ++ List.replicate (whole - digits.length) '0') ++ layout.integerMark
      else String.ofList (digits.take whole ++ '.' :: digits.drop whole)
  else
    let fraction := digits.drop 1
    let mantissa := digits.take 1 ++ (if fraction.isEmpty then [] else '.' :: fraction)
    let sign := if d.exponent < 0 then "-" else layout.positiveExponent
    String.ofList mantissa ++ "e" ++ sign ++ toString d.exponent.natAbs

def binary64 (layout : Layout) (x : Binary64) : String :=
  let magnitude :=
    if x.isZero then "0" ++ layout.integerMark else layout.decimal x.shortest
  if x.negative then "-" ++ magnitude else magnitude

end Layout

end SpecLint
