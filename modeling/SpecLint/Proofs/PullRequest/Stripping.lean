import Mathlib.Logic.ExistsUnique
import SpecLint.Proofs.PullRequest.Section
import SpecLint.Proofs.Text.Offset

/-!
What it means to take the comments out of a text. Every text is in exactly one way a row of plain
pieces with a closed comment between each two of them (`Commented.Splits`): a comment starts at the
first opener that is left and ends at the first closer behind it. What stays are the plain pieces. A
scan that moves through the bytes of the text by sums of offsets finds just this and is never out of
the text or within a character (`scan?_eq`).
-/

namespace SpecLint.PullRequest

open Text

/-- There is no opener, or no closer behind the first one. -/
def IsUnclosed (text : List Char) : Prop :=
  ¬commentStart <:+: text ∨
    ∃ before inside, IsFirst commentStart text before inside ∧ ¬commentEnd <:+: inside

theorem cutComment_eq_none_iff_isUnclosed {text : List Char} :
    cutComment text = none ↔ IsUnclosed text := by
  constructor
  · intro hnone
    by_cases hopen : commentStart <:+: text
    · obtain ⟨before, inside, hcut⟩ := exists_cut_of_infix hopen
      have hstart := isFirst_of_cut hcut
      refine .inr ⟨before, inside, hstart, ?_⟩
      rintro ⟨content, after, rfl⟩
      refine cutComment_eq_none_iff.1 hnone before content after ?_
      rw [hstart.eq]
      simp only [List.append_assoc]
    · exact .inl hopen
  · intro hunclosed
    rw [Option.eq_none_iff_forall_ne_some]
    rintro ⟨before, after⟩ hcut
    obtain ⟨inside, content, hstart, hend⟩ := cutComment_eq_some_iff.1 hcut
    rcases hunclosed with hnone | ⟨before', inside', hstart', hnone⟩
    · exact hnone ⟨before, inside, hstart.eq.symm⟩
    · obtain ⟨-, rfl⟩ := hstart.unique hstart'
      exact hnone ⟨content, after, hend.eq.symm⟩

/-! ### The scan by offsets -/

/-- Takes the comments out of the rest of a text, behind what is left of its start. There is no
result if a slice starts or ends out of the text or within a character. -/
def scan? (out rest : List Char) : Option (List Char) :=
  match offset? commentStart rest with
  | none => some (out ++ rest)
  | some start =>
    match from? (start + 4) rest with
    | none => none
    | some inside =>
      match offset? commentEnd inside with
      | none => some (out ++ rest)
      | some stop =>
        match upTo? start rest, h : from? (start + 4 + stop + 3) rest with
        | some before, some after =>
          have := length_lt_of_from? h (Nat.succ_pos _)
          scan? (out ++ before) after
        | _, _ => none
termination_by rest.length

section Scan

variable {text before inside content after out : List Char}

theorem from?_of_isFirst_start (hstart : IsFirst commentStart text before inside) :
    from? (size before + 4) text = some inside := by
  have hsize : size (before ++ commentStart) = size before + 4 := by
    rw [size_append]
    rfl
  rw [hstart.eq, ← hsize, from?_size]

theorem from?_of_isFirst_end (hstart : IsFirst commentStart text before inside)
    (hend : IsFirst commentEnd inside content after) :
    from? (size before + 4 + size content + 3) text = some after := by
  have hsize : size (before ++ commentStart ++ (content ++ commentEnd)) =
      size before + 4 + size content + 3 := by
    simp only [size_append, Nat.add_assoc]
    rfl
  have htext : text = before ++ commentStart ++ (content ++ commentEnd) ++ after := by
    rw [hstart.eq, hend.eq]
    simp only [List.append_assoc]
  rw [htext, ← hsize, from?_size]

theorem scan?_of_isUnclosed (h : IsUnclosed text) : scan? out text = some (out ++ text) := by
  rcases h with hopen | ⟨before, inside, hstart, hend⟩
  · rw [scan?, offset?_eq_none_iff.2 hopen]
  · rw [scan?, offset?_of_isFirst hstart]
    simp only [from?_of_isFirst_start hstart, offset?_eq_none_iff.2 hend]

theorem scan?_of_closed (hstart : IsFirst commentStart text before inside)
    (hend : IsFirst commentEnd inside content after) :
    scan? out text = scan? (out ++ before) after := by
  have hbefore : upTo? (size before) text = some before := by
    rw [hstart.eq, List.append_assoc, upTo?_size]
  have hafter := from?_of_isFirst_end hstart hend
  rw [scan?, offset?_of_isFirst hstart]
  simp only [from?_of_isFirst_start hstart, offset?_of_isFirst hend]
  split
  · rename_i before' after' hbefore' hafter'
    obtain rfl := Option.some.inj (hbefore.symm.trans hbefore')
    obtain rfl := Option.some.inj (hafter.symm.trans hafter')
    rfl
  · rename_i hnone
    exact absurd hafter (hnone before after hbefore)

end Scan

theorem scan?_eq (out text : List Char) : scan? out text = some (out ++ stripComments text) := by
  fun_induction stripComments text generalizing out with
  | case1 text hnone => exact scan?_of_isUnclosed (cutComment_eq_none_iff_isUnclosed.1 hnone)
  | case2 text before after hcut _ ih =>
      obtain ⟨inside, content, hstart, hend⟩ := cutComment_eq_some_iff.1 hcut
      rw [scan?_of_closed hstart hend, ih, List.append_assoc]

/-! ### Plain pieces and comments -/

/-- Plain pieces, each with the content of the comment behind it, and the piece behind them all. -/
structure Commented where
  pieces : List (List Char × List Char)
  last : List Char

namespace Commented

/-- The pieces and the comments as one text. -/
def whole (parts : Commented) : List Char :=
  parts.pieces.flatMap (fun (text, content) => text ++ commentStart ++ content ++ commentEnd) ++
    parts.last

/-- The pieces without the comments. -/
def plain (parts : Commented) : List Char := parts.pieces.flatMap Prod.fst ++ parts.last

/-- The parts make up the text. A comment ends at the first closer behind its opener, which is the
first opener of what is left there; in the last piece no comment is closed. -/
structure Splits (parts : Commented) (text : List Char) : Prop where
  eq : text = parts.whole
  closes : ∀ piece ∈ parts.pieces, IsFirst commentEnd (piece.2 ++ commentEnd) piece.2 []
  opens : ∀ piece more, piece :: more <:+ parts.pieces →
    IsFirst commentStart (whole ⟨piece :: more, parts.last⟩) piece.1
      (piece.2 ++ commentEnd ++ whole ⟨more, parts.last⟩)
  last : IsUnclosed parts.last

variable {piece : List Char × List Char} {more : List (List Char × List Char)}
  {last text : List Char}

theorem whole_cons (piece : List Char × List Char) (more : List (List Char × List Char))
    (last : List Char) :
    whole ⟨piece :: more, last⟩ =
      piece.1 ++ commentStart ++ (piece.2 ++ commentEnd ++ whole ⟨more, last⟩) := by
  simp only [whole, List.flatMap_cons, List.append_assoc]

theorem plain_cons (piece : List Char × List Char) (more : List (List Char × List Char))
    (last : List Char) : plain ⟨piece :: more, last⟩ = piece.1 ++ plain ⟨more, last⟩ := by
  simp only [plain, List.flatMap_cons, List.append_assoc]

theorem splits_nil_iff : Splits ⟨[], last⟩ text ↔ text = last ∧ IsUnclosed last := by
  constructor
  · intro h
    exact ⟨h.eq, h.last⟩
  · rintro ⟨rfl, h⟩
    exact ⟨rfl, by simp, by simp, h⟩

theorem splits_cons_iff :
    Splits ⟨piece :: more, last⟩ text ↔
      ∃ inside after, IsFirst commentStart text piece.1 inside ∧
        IsFirst commentEnd inside piece.2 after ∧ Splits ⟨more, last⟩ after := by
  constructor
  · rintro ⟨heq, hcloses, hopens, hlast⟩
    obtain ⟨hclose, hcloses⟩ := List.forall_mem_cons.1 hcloses
    refine ⟨_, whole ⟨more, last⟩, heq ▸ hopens piece more List.suffix_rfl,
      hclose.replace_after _, rfl, hcloses, fun piece' more' h => ?_, hlast⟩
    exact hopens piece' more' (h.trans (List.suffix_cons _ _))
  · rintro ⟨inside, after, hstart, hend, hmore⟩
    have hafter := hmore.eq
    have hinside := hend.eq
    have htext : text = whole ⟨piece :: more, last⟩ := by
      rw [whole_cons, ← hafter, ← hinside, hstart.eq]
    refine ⟨htext, ?_, ?_, hmore.last⟩
    · refine List.forall_mem_cons.2 ⟨?_, hmore.closes⟩
      have hclose := hend.replace_after []
      rwa [List.append_nil] at hclose
    · intro piece' more' hsuffix
      rcases List.suffix_cons_iff.1 hsuffix with heq | hsuffix
      · obtain ⟨rfl, rfl⟩ := List.cons.inj heq
        rw [hafter] at hinside
        rw [htext, hinside] at hstart
        exact hstart
      · exact hmore.opens piece' more' hsuffix

/-- Every text is put together from plain pieces and comments. -/
theorem exists_splits (text : List Char) : ∃ parts : Commented, parts.Splits text := by
  fun_induction stripComments text with
  | case1 text hnone =>
      exact ⟨⟨[], text⟩, splits_nil_iff.2 ⟨rfl, cutComment_eq_none_iff_isUnclosed.1 hnone⟩⟩
  | case2 text before after hcut _ ih =>
      obtain ⟨inside, content, hstart, hend⟩ := cutComment_eq_some_iff.1 hcut
      obtain ⟨parts, hparts⟩ := ih
      exact ⟨⟨(before, content) :: parts.pieces, parts.last⟩,
        splits_cons_iff.2 ⟨inside, after, hstart, hend, hparts⟩⟩

theorem Splits.cutComment_eq (h : Splits ⟨piece :: more, last⟩ text) :
    ∃ after, cutComment text = some (piece.1, after) := by
  obtain ⟨inside, after, hstart, hend, -⟩ := splits_cons_iff.1 h
  exact ⟨after, cutComment_eq_some_iff.2 ⟨inside, piece.2, hstart, hend⟩⟩

theorem Splits.unique {parts other : Commented} (h : parts.Splits text)
    (h' : other.Splits text) : parts = other := by
  obtain ⟨pieces, last⟩ := parts
  obtain ⟨pieces', last'⟩ := other
  induction pieces generalizing text pieces' with
  | nil =>
      obtain ⟨rfl, hunclosed⟩ := splits_nil_iff.1 h
      cases pieces' with
      | nil => rw [(splits_nil_iff.1 h').1]
      | cons piece' more' =>
          obtain ⟨after, hcut⟩ := h'.cutComment_eq
          rw [cutComment_eq_none_iff_isUnclosed.2 hunclosed] at hcut
          cases hcut
  | cons piece more ih =>
      cases pieces' with
      | nil =>
          obtain ⟨rfl, hunclosed⟩ := splits_nil_iff.1 h'
          obtain ⟨after, hcut⟩ := h.cutComment_eq
          rw [cutComment_eq_none_iff_isUnclosed.2 hunclosed] at hcut
          cases hcut
      | cons piece' more' =>
          obtain ⟨inside, after, hstart, hend, hmore⟩ := splits_cons_iff.1 h
          obtain ⟨inside', after', hstart', hend', hmore'⟩ := splits_cons_iff.1 h'
          obtain ⟨hpiece, rfl⟩ := hstart.unique hstart'
          obtain ⟨hcontent, rfl⟩ := hend.unique hend'
          obtain ⟨rfl, rfl⟩ := Commented.mk.inj (ih hmore more' hmore')
          rw [Prod.ext hpiece hcontent]

theorem Splits.stripComments_eq {parts : Commented} (h : parts.Splits text) :
    stripComments text = parts.plain := by
  obtain ⟨pieces, last⟩ := parts
  induction pieces generalizing text with
  | nil =>
      obtain ⟨rfl, hunclosed⟩ := splits_nil_iff.1 h
      exact stripComments_of_none (cutComment_eq_none_iff_isUnclosed.2 hunclosed)
  | cons piece more ih =>
      obtain ⟨inside, after, hstart, hend, hmore⟩ := splits_cons_iff.1 h
      rw [stripComments_of_some (cutComment_eq_some_iff.2 ⟨inside, piece.2, hstart, hend⟩),
        ih hmore, plain_cons]

end Commented

/-! ### Openers that are not closed -/

/-- An opener with no closer behind it, not even one that shares its dashes, stands behind every
closed comment. -/
theorem suffix_of_no_end {text front inside before after : List Char}
    (hopen : text = front ++ commentStart ++ inside) (hclose : text = before ++ commentEnd ++ after)
    (hnone : ¬commentEnd <:+: '-' :: '-' :: inside) : commentStart ++ inside <:+ after := by
  rw [List.append_assoc] at hopen hclose
  have hopen : commentStart ++ inside <:+ text := ⟨front, hopen.symm⟩
  have hclose : commentEnd ++ after <:+ text := ⟨before, hclose.symm⟩
  have hafter : '>' :: after <:+ text := List.IsSuffix.trans ⟨['-', '-'], rfl⟩ hclose
  by_cases hlength : (commentStart ++ inside).length ≤ after.length
  · exact List.suffix_of_suffix_length_le hopen ((List.suffix_cons _ _).trans hafter) hlength
  · exfalso
    -- The end of the closer is no character of the opener, so it is behind it.
    have hend : '>' :: after <:+ '<' :: '!' :: '-' :: '-' :: inside :=
      List.suffix_of_suffix_length_le hafter hopen (Nat.lt_of_not_le hlength)
    simp only [List.suffix_cons_iff, List.cons.injEq, Char.reduceEq, false_and, false_or] at hend
    have hle := hend.length_le
    have hinside : '-' :: '-' :: inside <:+ text := List.IsSuffix.trans ⟨['<', '!'], rfl⟩ hopen
    have hsuffix : commentEnd ++ after <:+ '-' :: '-' :: inside := by
      refine List.suffix_of_suffix_length_le hclose hinside ?_
      show after.length + 3 ≤ inside.length + 2
      rw [List.length_cons] at hle
      omega
    exact hnone ((List.prefix_append commentEnd after).isInfix.trans hsuffix.isInfix)

/-- Such an opener is kept, with all that is behind it. -/
theorem suffix_stripComments {text front inside : List Char}
    (htext : text = front ++ commentStart ++ inside)
    (hinside : ¬commentEnd <:+: '-' :: '-' :: inside) :
    commentStart ++ inside <:+ stripComments text := by
  fun_induction stripComments text generalizing front with
  | case1 text hnone =>
      rw [htext, List.append_assoc]
      exact List.suffix_append _ _
  | case2 text before after hcut _ ih =>
      obtain ⟨inside', content, hstart, hend⟩ := cutComment_eq_some_iff.1 hcut
      have hclose : text = before ++ commentStart ++ content ++ commentEnd ++ after := by
        rw [hstart.eq, hend.eq]
        simp only [List.append_assoc]
      obtain ⟨front', hfront'⟩ := suffix_of_no_end htext hclose hinside
      have hafter : after = front' ++ commentStart ++ inside := by
        rw [← hfront', List.append_assoc]
      exact (ih hafter).trans (List.suffix_append _ _)

/-- Taking out the comments never reaches out of the text and keeps just the plain pieces of the one
way in which the text is put together from such and closed comments. So a text without a closed
comment stays as it is, and of an opener with no closer behind it everything is kept. -/
theorem stripComments_exact (text : List Char) :
    scan? [] text = some (stripComments text) ∧
    (∃! parts : Commented, parts.Splits text) ∧
    (∀ parts : Commented, parts.Splits text → stripComments text = parts.plain) ∧
    ((∀ before content after,
      text ≠ before ++ commentStart ++ content ++ commentEnd ++ after) →
        stripComments text = text) ∧
    ∀ front inside, text = front ++ commentStart ++ inside →
      ¬commentEnd <:+: '-' :: '-' :: inside →
        commentStart ++ inside <:+ stripComments text := by
  obtain ⟨parts, hparts⟩ := Commented.exists_splits text
  refine ⟨scan?_eq [] text, ⟨parts, hparts, fun other hother => hother.unique hparts⟩,
    fun parts hparts => hparts.stripComments_eq,
    fun hnone => stripComments_of_none (cutComment_eq_none_iff.2 hnone),
    fun front inside htext hinside => suffix_stripComments htext hinside⟩

example : stripComments "<!--->x-->y<!-->".toList = "y<!-->".toList := by decide +kernel

end SpecLint.PullRequest
