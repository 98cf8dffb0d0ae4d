/-!
Regular expressions over texts, and the ends of their matches. `Regex.ends` lists, for one start,
every place where a match can end; alternatives and repetitions need no search order, since all
that is asked of an expression is whether it occurs.
-/

namespace SpecLint

/-- A set of characters: ranges of code points, or all characters outside them. -/
structure CharSet where
  ranges : List (Nat × Nat)
  complement : Bool
deriving DecidableEq, Repr

namespace CharSet

def single (c : Char) : CharSet := ⟨[(c.toNat, c.toNat)], false⟩

def digit : CharSet := ⟨[(48, 57)], false⟩

def word : CharSet := ⟨[(48, 57), (65, 90), (95, 95), (97, 122)], false⟩

/-- Spaces and line ends; beyond ASCII the fixed space, the wide space, the end of a paragraph and the
byte order mark. -/
def space : CharSet :=
  ⟨[(9, 13), (0x20, 0x20), (0xA0, 0xA0), (0x2003, 0x2003), (0x2029, 0x2029), (0xFEFF, 0xFEFF)],
    false⟩

/-- Everything but the end of a line. -/
def dot : CharSet := ⟨[(10, 10)], true⟩

def negate (set : CharSet) : CharSet := { set with complement := !set.complement }

/-- Whether a character is in the set. -/
def contains (set : CharSet) (c : Char) : Bool :=
  set.ranges.any (fun (low, high) => low ≤ c.toNat && c.toNat ≤ high) != set.complement

end CharSet

/-- A regular expression. -/
inductive Regex where
  | empty
  /-- One character of any of the sets. -/
  | oneOf (sets : List CharSet) (complement : Bool)
  | sequence (first second : Regex)
  | choice (first second : Regex)
  /-- Some number of matches in a row; without `most`, any number from `least`. -/
  | repeated (body : Regex) (least : Nat) (most : Option Nat)
  | textStart
  | textEnd
  | wordEdge (negated : Bool)
  /-- A condition on the text after this place. -/
  | ahead (body : Regex) (negated : Bool)
  /-- A condition on the text before this place. -/
  | behind (body : Regex) (negated : Bool)
deriving Repr

namespace Regex

/-- Whether a word character stands at a place. -/
def wordAt (text : Array Char) (place : Nat) : Bool :=
  text[place]?.any CharSet.word.contains

/-- Whether a word starts or ends at a place. -/
def edgeAt (text : Array Char) (place : Nat) : Bool :=
  (place != 0 && wordAt text (place - 1)) != wordAt text place

def distinct (places : List Nat) : List Nat :=
  places.foldr (fun place others => if others.contains place then others else place :: others) []

/-- The places reached by exactly `count` steps. -/
def stepped (step : Nat → List Nat) : (count : Nat) → List Nat → List Nat
  | 0, places => places
  | count + 1, places =>
    let next := distinct (places.flatMap step)
    if next = places then places else stepped step count next

/-- The places reached by at most `count` steps. -/
def reached (step : Nat → List Nat) : (count : Nat) → List Nat → List Nat
  | 0, places => places
  | count + 1, places =>
    let more := distinct (places ++ places.flatMap step)
    if more.length = places.length then places else reached step count more

/-- The places where a match that starts at `start` can end. -/
def ends (text : Array Char) : Regex → (start : Nat) → List Nat
  | .empty, start => [start]
  | .oneOf sets complement, start =>
    match text[start]? with
    | some c => if sets.any (·.contains c) != complement then [start + 1] else []
    | none => []
  | .sequence first second, start =>
    distinct ((ends text first start).flatMap (ends text second))
  | .choice first second, start => distinct (ends text first start ++ ends text second start)
  | .repeated body least most, start =>
    let first := stepped (ends text body) least [start]
    reached (ends text body) ((most.map (· - least)).getD (text.size + 1)) first
  | .textStart, start => if start = 0 then [start] else []
  | .textEnd, start => if start = text.size then [start] else []
  | .wordEdge negated, start => if edgeAt text start != negated then [start] else []
  | .ahead body negated, start => if (ends text body start).isEmpty = negated then [start] else []
  | .behind body negated, start =>
    let found := (List.range (start + 1)).any fun place => (ends text body place).contains start
    if found != negated then [start] else []

/-- Whether the expression matches some part of a text. -/
def occursIn (regex : Regex) (text : String) : Bool :=
  let chars := text.toList.toArray
  (List.range (chars.size + 1)).any fun start => !(ends chars regex start).isEmpty

end Regex

end SpecLint
