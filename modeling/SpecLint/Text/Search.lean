/-!
Substrings of texts given as lists of characters: does one occur, and what stands before and
after its first occurrence. `cut_eq` says that cutting loses nothing.
-/

namespace SpecLint.Text

/-- The text after `pattern`, if the text starts with it. -/
def afterStart : (pattern text : List Char) → Option (List Char)
  | [], text => some text
  | _ :: _, [] => none
  | p :: pattern, c :: text => if p = c then afterStart pattern text else none

theorem afterStart_eq_some_iff {pattern text rest : List Char} :
    afterStart pattern text = some rest ↔ text = pattern ++ rest := by
  induction pattern generalizing text with
  | nil => simp [afterStart, eq_comm]
  | cons p pattern ih =>
    cases text with
    | nil => simp [afterStart]
    | cons c text =>
      by_cases h : p = c
      · simp [afterStart, h, ih]
      · simp only [afterStart, h, if_false, List.cons_append, List.cons.injEq]
        constructor
        · intro hn
          cases hn
        · intro hn
          exact absurd hn.1.symm h

/-- The text before and after the first occurrence of `pattern`. -/
def cut (pattern : List Char) : (text : List Char) → Option (List Char × List Char)
  | [] => (afterStart pattern []).map ([], ·)
  | c :: text =>
    match afterStart pattern (c :: text) with
    | some rest => some ([], rest)
    | none => (cut pattern text).map fun (before, rest) => (c :: before, rest)

theorem cut_eq {pattern text before rest : List Char} (h : cut pattern text = some (before, rest)) :
    text = before ++ pattern ++ rest := by
  induction text generalizing before with
  | nil =>
    simp only [cut, Option.map_eq_some_iff, Prod.mk.injEq] at h
    obtain ⟨r, hr, rfl, rfl⟩ := h
    simpa using afterStart_eq_some_iff.1 hr
  | cons c text ih =>
    rw [cut] at h
    split at h
    · rename_i r hr
      simp only [Option.some.injEq, Prod.mk.injEq] at h
      obtain ⟨rfl, rfl⟩ := h
      simpa using afterStart_eq_some_iff.1 hr
    · simp only [Option.map_eq_some_iff, Prod.mk.injEq] at h
      obtain ⟨⟨b, r⟩, hr, rfl, rfl⟩ := h
      simp [ih hr]

/-- Whether `pattern` occurs in the text. -/
def occurs (pattern text : List Char) : Bool :=
  (cut pattern text).isSome

/-- Whether the text starts with `start`. -/
def startsWith (start text : String) : Bool :=
  (afterStart start.toList text.toList).isSome

/-- Whether `part` occurs in the text. -/
def contains (part text : String) : Bool :=
  occurs part.toList text.toList

/-- The pieces of the text between the characters `separator`. -/
def splitAt (separator : Char) : List Char → List (List Char)
  | [] => [[]]
  | c :: rest =>
    if c = separator then [] :: splitAt separator rest
    else
      match splitAt separator rest with
      | [] => [[c]]
      | piece :: more => (c :: piece) :: more

end SpecLint.Text
