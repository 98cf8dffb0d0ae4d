import Mathlib.Data.List.DropRight
import SpecLint.Text.Blank

/-!
White space in texts. Trimming a text a second time leaves it as it is (`trim_trim`), and its words
are the pieces between blanks that are not empty (`wordsOf_eq_filter`).
-/

namespace SpecLint.Text

theorem isBlankText_iff {text : String} :
    isBlankText text = true ↔ ∀ c ∈ text.toList, isBlank c = true := by
  rw [isBlankText, List.all_eq_true]

theorem isBlankText_eq_false_iff {text : String} :
    isBlankText text = false ↔ ∃ c ∈ text.toList, isBlank c = false := by
  simp only [isBlankText, List.all_eq_false, Bool.not_eq_true]

/-! ### Trimming -/

theorem isBlank_head_dropWhile {cs : List Char} {c : Char}
    (h : (cs.dropWhile isBlank).head? = some c) : isBlank c = false := by
  have hhead := List.head?_dropWhile_not isBlank cs
  rw [h] at hhead
  exact hhead

theorem trimChars_trimChars (cs : List Char) : trimChars (trimChars cs) = trimChars cs := by
  -- What is left of a text after its start is trimmed is cut at its end only, so that it still
  -- starts with the same character.
  have hstart : (trimChars cs).dropWhile isBlank = trimChars cs := by
    have hprefix : trimChars cs <+: cs.dropWhile isBlank := List.rdropWhile_prefix isBlank _
    cases htrim : trimChars cs with
    | nil => rfl
    | cons c rest =>
        rw [htrim] at hprefix
        have hhead : (cs.dropWhile isBlank).head? = some c := by
          obtain ⟨more, hmore⟩ := hprefix
          rw [← hmore]
          rfl
        rw [List.dropWhile_cons_of_neg (by simp [isBlank_head_dropWhile hhead])]
  have hend : trimEndChars (trimChars cs) = trimChars cs := List.rdropWhile_idempotent isBlank _
  rw [trimChars, hstart, hend]

theorem trim_trim (text : String) : trim (trim text) = trim text := by
  simp only [trim, String.toList_ofList, trimChars_trimChars]

theorem trim_eq_iff {text trimmed : String} :
    trim text = trimmed ↔ trimChars text.toList = trimmed.toList := by
  rw [trim, ← String.toList_inj, String.toList_ofList]

/-! ### Words -/

theorem wordsOf_cons_of_blank {c : Char} {rest : List Char} (h : isBlank c = true) :
    wordsOf (c :: rest) = wordsOf rest :=
  if_pos h

theorem wordsOf_singleton {c : Char} (h : isBlank c = false) : wordsOf [c] = [[c]] :=
  if_neg (Bool.eq_false_iff.1 h)

theorem wordsOf_cons_cons {c d : Char} {rest : List Char} (h : isBlank c = false) :
    wordsOf (c :: d :: rest) =
      if isBlank d then [c] :: wordsOf (d :: rest)
      else
        match wordsOf (d :: rest) with
        | [] => [[c]]
        | word :: more => (c :: word) :: more :=
  if_neg (Bool.eq_false_iff.1 h)

theorem wordsOf_eq_filter (cs : List Char) :
    wordsOf cs = (cs.splitOnP isBlank).filter fun piece => !piece.isEmpty := by
  induction cs with
  | nil => rfl
  | cons c rest ih =>
      rw [List.splitOnP_cons_eq_if_modifyHead]
      cases hc : isBlank c with
      | true => simp [wordsOf_cons_of_blank hc, ih]
      | false =>
          -- The character comes in front of the piece that follows it, which is a word already
          -- unless a blank or the end follows.
          cases rest with
          | nil => simp [wordsOf_singleton hc]
          | cons d rest =>
              rw [wordsOf_cons_cons hc, ih, List.splitOnP_cons_eq_if_modifyHead]
              obtain ⟨piece, pieces, hpieces⟩ :=
                List.exists_cons_of_ne_nil (List.splitOnP_ne_nil isBlank rest)
              cases isBlank d <;> simp [hpieces]

theorem flatten_splitOnP (p : Char → Bool) (cs : List Char) :
    (cs.splitOnP p).flatten = cs.filter fun c => !p c := by
  induction cs with
  | nil => rfl
  | cons c rest ih =>
      obtain ⟨piece, pieces, hpieces⟩ := List.exists_cons_of_ne_nil (List.splitOnP_ne_nil p rest)
      rw [hpieces] at ih
      rw [List.splitOnP_cons_eq_if_modifyHead, hpieces]
      cases h : p c <;> simp [h, ← ih]

theorem flatten_wordsOf (cs : List Char) :
    (wordsOf cs).flatten = cs.filter fun c => !isBlank c := by
  rw [wordsOf_eq_filter, List.flatten_filter_not_isEmpty, flatten_splitOnP]

/-- What is no blank stays when the runs of blanks collapse, and no other character is new. -/
theorem mem_collapse_iff {c : Char} {cs : List Char} (h : isBlank c = false) :
    c ∈ collapse cs ↔ c ∈ cs := by
  have hwords : ∀ words : List (List Char),
      c ∈ [' '].intercalate words ↔ c ∈ words.flatten := by
    intro words
    induction words with
    | nil => rfl
    | cons word words ih =>
        cases words with
        | nil => simp
        | cons next words =>
            have hspace : c ≠ ' ' := by
              rintro rfl
              exact absurd h (by decide)
            rw [List.intercalate_cons_cons, List.mem_append, List.mem_append, ih]
            simp [hspace]
  rw [collapse, hwords, flatten_wordsOf, List.mem_filter]
  simp [h]

end SpecLint.Text
