import SpecLint.Proofs.Text.Search
import SpecLint.PullRequest.Section

/-!
Sections of the body of a pull request. Where a section starts and ends, what of it stands outside
comments and how long that is are stated here by how the texts are put together; the searches that
measure a section find just this (`isThin_iff`).
-/

namespace SpecLint.PullRequest

open Text

/-! ### Comments -/

section Comments

variable {text before after rest : List Char}

theorem cutComment_eq_some_iff :
    cutComment text = some (before, after) ↔
      ∃ inside content, IsFirst commentStart text before inside ∧
        IsFirst commentEnd inside content after := by
  simp only [cutComment, Option.bind_eq_some_iff, Option.map_eq_some_iff, Prod.exists,
    Prod.mk.injEq, cut_eq_some_iff]
  constructor
  · rintro ⟨before, inside, hstart, content, after, hend, rfl, rfl⟩
    exact ⟨inside, content, hstart, hend⟩
  · rintro ⟨inside, content, hstart, hend⟩
    exact ⟨before, inside, hstart, content, after, hend, rfl, rfl⟩

/-- Every text that holds a closed comment has one cut out. -/
theorem cutComment_eq_none_iff :
    cutComment text = none ↔
      ∀ before content after, text ≠ before ++ commentStart ++ content ++ commentEnd ++ after := by
  constructor
  · intro hnone before content after heq
    have hopens : text = before ++ commentStart ++ (content ++ commentEnd ++ after) := by
      rw [heq]
      simp only [List.append_assoc]
    obtain ⟨front, inside, hcut⟩ := exists_cut_of_infix ⟨before, _, hopens.symm⟩
    have hfirst := isFirst_of_cut hcut
    -- The first comment starts no later than this one, so that the end of this one is ahead of it.
    have hcloses : commentEnd <:+: inside :=
      List.IsInfix.trans ⟨content, after, rfl⟩ (hfirst.suffix hopens).isInfix
    obtain ⟨content', after', hcut'⟩ := exists_cut_of_infix hcloses
    have hsome := cutComment_eq_some_iff.2 ⟨inside, content', hfirst, isFirst_of_cut hcut'⟩
    rw [hnone] at hsome
    cases hsome
  · intro hnone
    rw [Option.eq_none_iff_forall_ne_some]
    rintro ⟨before, after⟩ hcut
    obtain ⟨inside, content, hstart, hend⟩ := cutComment_eq_some_iff.1 hcut
    refine hnone before content after ?_
    rw [hstart.eq, hend.eq]
    simp only [List.append_assoc]

/-- A text and what is left of it without its closed comments, which are taken out from the left to
the right. -/
inductive Uncommented : List Char → List Char → Prop where
  | plain {text : List Char}
      (none : ∀ before content after,
        text ≠ before ++ commentStart ++ content ++ commentEnd ++ after) : Uncommented text text
  | cut {text before inside content after rest : List Char}
      (start : IsFirst commentStart text before inside)
      (close : IsFirst commentEnd inside content after) (more : Uncommented after rest) :
      Uncommented text (before ++ rest)

theorem stripComments_of_none (h : cutComment text = none) : stripComments text = text := by
  rw [stripComments]
  split
  · rfl
  · simp_all

theorem stripComments_of_some (h : cutComment text = some (before, after)) :
    stripComments text = before ++ stripComments after := by
  rw [stripComments]
  split
  · simp_all
  · simp_all

theorem stripComments_eq_iff : stripComments text = rest ↔ Uncommented text rest := by
  constructor
  · rintro rfl
    fun_induction stripComments text with
    | case1 text hnone => exact .plain (cutComment_eq_none_iff.1 hnone)
    | case2 text before after hcut _ ih =>
        obtain ⟨inside, content, hstart, hend⟩ := cutComment_eq_some_iff.1 hcut
        exact .cut hstart hend ih
  · intro h
    induction h with
    | plain hnone => exact stripComments_of_none (cutComment_eq_none_iff.2 hnone)
    | cut hstart hend _ ih =>
        rw [stripComments_of_some (cutComment_eq_some_iff.2 ⟨_, _, hstart, hend⟩), ih]

end Comments

/-! ### Sections -/

/-- How a line starts that ends a section. -/
def nextHeading : List Char := "\n## ".toList

/-- A section follows the first occurrence of its heading, up to the next heading or to the end of
the body. -/
inductive IsSection (heading : String) (body : List Char) : List Char → Prop where
  | upTo {before rest text after : List Char} (start : IsFirst heading.toList body before rest)
      (next : IsFirst nextHeading rest text after) : IsSection heading body text
  | last {before rest : List Char} (start : IsFirst heading.toList body before rest)
      (none : ¬nextHeading <:+: rest) : IsSection heading body rest

variable {heading : String} {least : Nat}

theorem sectionOf?_eq_some_iff {body text : List Char} :
    sectionOf? heading body = some text ↔ IsSection heading body text := by
  simp only [sectionOf?, Option.map_eq_some_iff, Prod.exists]
  constructor
  · rintro ⟨before, rest, hstart, htext⟩
    rw [cut_eq_some_iff] at hstart
    split at htext
    · rename_i hnext
      subst htext
      exact .upTo hstart (cut_eq_some_iff.1 hnext)
    · rename_i hnone
      subst htext
      exact .last hstart (cut_eq_none_iff.1 hnone)
  · intro h
    cases h with
    | @upTo _ rest _ after hstart hnext =>
        have hcut : cut "\n## ".toList rest = some (text, after) := cut_eq_some_iff.2 hnext
        exact ⟨_, rest, cut_eq_some_iff.2 hstart, by rw [hcut]⟩
    | last hstart hnone =>
        have hcut : cut "\n## ".toList text = none := cut_eq_none_iff.2 hnone
        exact ⟨_, text, cut_eq_some_iff.2 hstart, by rw [hcut]⟩

theorem IsSection.isInfix {body text : List Char} (h : IsSection heading body text) :
    heading.toList <:+: body := by
  rcases h with ⟨hstart, -⟩ | ⟨hstart, -⟩
  · exact ⟨_, _, hstart.eq.symm⟩
  · exact ⟨_, _, hstart.eq.symm⟩

/-- The heading occurs, and its section says less than it should. Comments do not count, and of the
blanks between two words (`wordsOf_eq_filter`) one does. -/
def IsThin (body heading : String) (least : Nat) : Prop :=
  ∃ text rest, IsSection heading body.toList text ∧ Uncommented text rest ∧
    (collapse rest).length < least

theorem isThin_iff {body : String} :
    IsThin body heading least ↔
      ∃ text ∈ sectionText? heading body, text.length < least := by
  simp only [IsThin, sectionText?, ← sectionOf?_eq_some_iff, ← stripComments_eq_iff,
    Option.mem_def, Option.map_eq_some_iff]
  constructor
  · rintro ⟨text, rest, hsection, rfl, hleast⟩
    exact ⟨_, ⟨text, hsection, rfl⟩, hleast⟩
  · rintro ⟨_, ⟨text, hsection, rfl⟩, hleast⟩
    exact ⟨text, _, hsection, rfl, hleast⟩

instance (body heading : String) (least : Nat) : Decidable (IsThin body heading least) :=
  decidable_of_iff _ isThin_iff.symm

theorem IsThin.isInfix {body : String} (h : IsThin body heading least) :
    heading.toList <:+: body.toList := by
  obtain ⟨text, rest, hsection, -⟩ := h
  exact hsection.isInfix

end SpecLint.PullRequest
