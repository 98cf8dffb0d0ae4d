import SpecLint.Json.Basic

/-!
Numbers compared by what they denote, and values that are equal up to that: `1` and `1.0` are the
same number.
-/

namespace SpecLint

namespace Number

def numerator : Number → Int
  | .int i => i
  | .float x => x.signedNumerator

/-- A positive number over which the value is an integer. -/
def denominator : Number → Nat
  | .int _ => 1
  | .float x => x.denominator

/-- Whether a number is less than another one. -/
def isLess (a b : Number) : Bool :=
  a.numerator * b.denominator < b.numerator * a.denominator

/-- The floating point number nearest to the value. -/
def nearest : Number → Binary64
  | .int i => (Binary64.ofInt? i).getD .zero
  | .float x => x

/-- Whether two numbers are the same: integers exactly, and otherwise as floating point numbers. -/
def isSame : Number → Number → Bool
  | .int i, .int j => i == j
  | a, b => a.nearest.signedNumerator == b.nearest.signedNumerator &&
      a.nearest.denominator == b.nearest.denominator

end Number

namespace Json

mutual

/-- Whether two values are equal, numbers by value. -/
def isSame : Json → Json → Bool
  | .null, .null => true
  | .boolean a, .boolean b => a == b
  | .number a, .number b => a.isSame b
  | .string a, .string b => a == b
  | .array a, .array b => sameItems a b
  | .object a, .object b => sameMembers a b
  | _, _ => false

/-- Whether two lists of items are equal, numbers by value. -/
def sameItems : List Json → List Json → Bool
  | [], [] => true
  | a :: as, b :: bs => isSame a b && sameItems as bs
  | _, _ => false

/-- Whether two lists of members are equal, numbers by value. -/
def sameMembers : List (String × Json) → List (String × Json) → Bool
  | [], [] => true
  | (k, a) :: as, (l, b) :: bs => k == l && isSame a b && sameMembers as bs
  | _, _ => false

end

/-- Whether two items of a list are equal. -/
def hasTwins : List Json → Bool
  | [] => false
  | item :: rest => rest.any (isSame item) || hasTwins rest

mutual

/-- The number of values inside one another, at the deepest place. -/
def height : Json → Nat
  | .array items => heightItems items + 1
  | .object members => heightMembers members + 1
  | _ => 1

/-- The height of the highest item. -/
def heightItems : List Json → Nat
  | [] => 0
  | item :: rest => max (height item) (heightItems rest)

/-- The height of the highest member. -/
def heightMembers : List (String × Json) → Nat
  | [] => 0
  | (_, value) :: rest => max (height value) (heightMembers rest)

end

end Json

end SpecLint
