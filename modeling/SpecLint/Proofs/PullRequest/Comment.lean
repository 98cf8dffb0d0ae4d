import SpecLint.PullRequest.Template
import SpecLint.Proofs.PullRequest.Section
import SpecLint.Proofs.Text.Blank

/-!
Comments in sections. A section ends where the next heading starts, and that is looked for before
comments are taken out. So a comment leaves the text of its section as it is unless a line in it
starts like a heading (`sectionText?_comment_iff`); then the section ends within the comment, the
start of the comment counts as text, and what follows the comment does not.
-/

namespace SpecLint.PullRequest

open Text

/-! ### Where a section stands -/

/-- The text is the section under the first occurrence of a heading: it stands between a front with
the heading at its end and a rest that is empty or starts with the next heading. -/
structure StandsBetween (heading text front rest : String) : Prop where
  first : IsFirst heading.toList (front ++ heading ++ text ++ rest).toList front.toList
    (text ++ rest).toList
  not_infix : ¬nextHeading <:+: text.toList
  ends : rest = "" ∨ nextHeading <+: rest.toList

theorem isFirst_nextHeading_iff {text after : List Char} :
    IsFirst nextHeading (text ++ nextHeading ++ after) text after ↔ ¬nextHeading <:+: text :=
  isFirst_iff_not_infix "\n##".toList ' ' (by decide)

variable {heading text front rest : String}

theorem StandsBetween.isSection (h : StandsBetween heading text front rest) :
    IsSection heading (front ++ heading ++ text ++ rest).toList text.toList := by
  have hfirst := h.first
  rcases h.ends with rfl | ⟨after, hafter⟩
  · rw [String.append_empty (s := text)] at hfirst
    exact .last hfirst h.not_infix
  · rw [String.toList_append (s := text), ← hafter, ← List.append_assoc] at hfirst
    exact .upTo hfirst (isFirst_nextHeading_iff.2 h.not_infix)

/-! ### Comments -/

theorem stripComments_of_notMem {text : List Char} (h : '<' ∉ text) :
    stripComments text = text := by
  refine stripComments_of_none (cutComment_eq_none_iff.2 ?_)
  rintro before content after rfl
  exact h (by simp [commentStart])

/-- A comment that is not closed within its section stays. -/
theorem stripComments_of_unclosed {before content : List Char} (hbefore : '<' ∉ before)
    (hcontent : ¬commentEnd <:+: content) :
    stripComments (before ++ commentStart ++ content) = before ++ commentStart ++ content := by
  have hstart : IsFirst commentStart (before ++ commentStart ++ content) before content :=
    isFirst_of_head_notMem hbefore
  refine stripComments_of_none (Option.eq_none_iff_forall_ne_some.2 ?_)
  rintro ⟨before', after⟩ hcut
  obtain ⟨inside, content', hstart', hend⟩ := cutComment_eq_some_iff.1 hcut
  obtain ⟨-, rfl⟩ := hstart.unique hstart'
  exact hcontent ⟨content', after, hend.eq.symm⟩

theorem isFirst_commentEnd_iff {content after : List Char} :
    IsFirst commentEnd (content ++ commentEnd ++ after) content after ↔
      ¬commentEnd <:+: content :=
  isFirst_iff_not_infix "--".toList '>' (by decide)

theorem stripComments_of_closed {before content after : List Char} (hbefore : '<' ∉ before)
    (hafter : '<' ∉ after) (hcontent : ¬commentEnd <:+: content) :
    stripComments (before ++ commentStart ++ (content ++ commentEnd ++ after)) =
      before ++ after := by
  have hstart : IsFirst commentStart (before ++ commentStart ++ (content ++ commentEnd ++ after))
      before (content ++ commentEnd ++ after) := isFirst_of_head_notMem hbefore
  have hend : IsFirst commentEnd (content ++ commentEnd ++ after) content after :=
    isFirst_commentEnd_iff.2 hcontent
  rw [stripComments_of_some (cutComment_eq_some_iff.2 ⟨_, _, hstart, hend⟩),
    stripComments_of_notMem hafter]

/-! ### A comment in a section -/

theorem StandsBetween.sectionText?_eq (h : StandsBetween heading text front rest) :
    sectionText? heading (front ++ heading ++ text ++ rest) =
      some (collapse (stripComments text.toList)) := by
  rw [sectionText?, sectionOf?_eq_some_iff.2 h.isSection]
  rfl

/-- What stands under the first occurrence of a heading can be exchanged. -/
theorem StandsBetween.exchange {other rest' : String} (h : StandsBetween heading text front rest)
    (hnone : ¬nextHeading <:+: other.toList) (hends : rest' = "" ∨ nextHeading <+: rest'.toList) :
    StandsBetween heading other front rest' := by
  refine ⟨?_, hnone, hends⟩
  have hfirst := h.first.replace_after (other ++ rest').toList
  simpa only [String.toList_append, List.append_assoc] using hfirst

/-- No heading is across the marks of a comment. -/
theorem nextHeading_infix_iff {before content after : List Char} :
    nextHeading <:+: before ++ commentStart ++ (content ++ commentEnd ++ after) ↔
      nextHeading <:+: before ∨ nextHeading <:+: content ∨ nextHeading <:+: after := by
  rw [infix_append_append_iff (by decide) (by simp [commentStart, nextHeading]),
    infix_append_append_iff (by decide) (by simp [commentEnd, nextHeading])]

theorem StandsBetween.withComment {before content after : String}
    (h : StandsBetween heading (before ++ after) front rest)
    (hcontent : ¬nextHeading <:+: content.toList) :
    StandsBetween heading (before ++ "<!--" ++ content ++ "-->" ++ after) front rest := by
  refine h.exchange ?_ h.ends
  have hnone := h.not_infix
  rw [String.toList_append] at hnone
  have htext : (before ++ "<!--" ++ content ++ "-->" ++ after).toList =
      before.toList ++ commentStart ++ (content.toList ++ commentEnd ++ after.toList) := by
    simp [commentStart, commentEnd]
  rw [htext, nextHeading_infix_iff]
  rintro (hbefore | hinside | hafter)
  · exact hnone (hbefore.trans (List.prefix_append _ _).isInfix)
  · exact hcontent hinside
  · exact hnone (hafter.trans (List.suffix_append _ _).isInfix)

/-- A section with a heading in a comment ends there. -/
theorem StandsBetween.upToComment {before content after : String}
    (h : StandsBetween heading (before ++ after) front rest)
    (hcontent : nextHeading <:+: content.toList) :
    ∃ start next, front ++ heading ++ (before ++ "<!--" ++ content ++ "-->" ++ after) ++ rest =
        front ++ heading ++ (before ++ "<!--" ++ start) ++ next ∧
      start.toList <+: content.toList ∧
      StandsBetween heading (before ++ "<!--" ++ start) front next := by
  obtain ⟨start, next, hcut⟩ := exists_cut_of_infix hcontent
  have hfirst := isFirst_of_cut hcut
  have hnone := isFirst_nextHeading_iff.1 (hfirst.eq ▸ hfirst)
  have hcontent : content = String.ofList start ++ ("\n## " ++ String.ofList next) := by
    rw [← String.toList_inj, hfirst.eq, List.append_assoc]
    simp [nextHeading]
  refine ⟨String.ofList start, "\n## " ++ String.ofList next ++ "-->" ++ after ++ rest, ?_, ?_,
    h.exchange ?_ (.inr ?_)⟩
  · rw [hcontent]
    simp only [String.append_assoc]
  · rw [hfirst.eq, List.append_assoc, String.toList_ofList]
    exact List.prefix_append _ _
  · have hbefore := h.not_infix
    rw [String.toList_append] at hbefore
    have htext : (before ++ "<!--" ++ String.ofList start).toList =
        before.toList ++ commentStart ++ start := by
      simp [commentStart]
    rw [htext, infix_append_append_iff (by decide) (by simp [commentStart, nextHeading])]
    rintro (hinside | hinside)
    · exact hbefore (hinside.trans (List.prefix_append _ _).isInfix)
    · exact hnone hinside
  · simp only [String.toList_append, List.append_assoc]
    exact List.prefix_append _ _

/-- A comment with no heading in it is transparent: with it and without it, the text of its section
is the same. With a heading in it it never is, since then its start is part of the text. -/
theorem sectionText?_comment_iff {before content after : String}
    (h : StandsBetween heading (before ++ after) front rest) (hbefore : '<' ∉ before.toList)
    (hafter : '<' ∉ after.toList) (hcontent : ¬commentEnd <:+: content.toList) :
    sectionText? heading
        (front ++ heading ++ (before ++ "<!--" ++ content ++ "-->" ++ after) ++ rest) =
      sectionText? heading (front ++ heading ++ (before ++ after) ++ rest) ↔
      ¬nextHeading <:+: content.toList := by
  have hplain : stripComments (before ++ after).toList = before.toList ++ after.toList := by
    rw [String.toList_append]
    exact stripComments_of_notMem (by simp [hbefore, hafter])
  rw [h.sectionText?_eq, hplain]
  constructor
  · intro heq hheading
    obtain ⟨start, next, hbody, hstart, hsection⟩ := h.upToComment hheading
    have htext : (before ++ "<!--" ++ start).toList =
        before.toList ++ commentStart ++ start.toList := by
      simp [commentStart]
    have hunclosed : ¬commentEnd <:+: start.toList := fun hclosed =>
      hcontent (hclosed.trans hstart.isInfix)
    rw [hbody, hsection.sectionText?_eq, htext, stripComments_of_unclosed hbefore hunclosed,
      Option.some.injEq] at heq
    have hmark : '<' ∈ collapse (before.toList ++ commentStart ++ start.toList) :=
      (mem_collapse_iff (by decide)).2 (by simp [commentStart])
    rw [heq, mem_collapse_iff (by decide), List.mem_append] at hmark
    exact hmark.elim hbefore hafter
  · intro hheading
    have htext : (before ++ "<!--" ++ content ++ "-->" ++ after).toList =
        before.toList ++ commentStart ++ (content.toList ++ commentEnd ++ after.toList) := by
      simp [commentStart, commentEnd]
    rw [(h.withComment hheading).sectionText?_eq, htext,
      stripComments_of_closed hbefore hafter hcontent]

/-- A comment of several lines, with marks in it that start no comment and no heading. -/
def guidance : String := "\n##Say what <!-- was changed -- and why.\n"

theorem sectionText?_comment_iff_guidance :
    StandsBetween "## 📝 Description" ("\nTax is " ++ "rounded.\n") "## 🔧 Type of Change\n"
        "\n## 🧪 Testing\n" ∧
      '<' ∉ "\nTax is ".toList ∧ '<' ∉ "rounded.\n".toList ∧ ¬commentEnd <:+: guidance.toList ∧
      sectionText? "## 📝 Description" ("## 🔧 Type of Change\n" ++ "## 📝 Description" ++
          ("\nTax is " ++ "<!--" ++ guidance ++ "-->" ++ "rounded.\n") ++ "\n## 🧪 Testing\n") =
        sectionText? "## 📝 Description" ("## 🔧 Type of Change\n" ++ "## 📝 Description" ++
          ("\nTax is " ++ "rounded.\n") ++ "\n## 🧪 Testing\n") := by
  have hsection : StandsBetween "## 📝 Description" ("\nTax is " ++ "rounded.\n")
      "## 🔧 Type of Change\n" "\n## 🧪 Testing\n" :=
    ⟨cut_eq_some_iff.1 (by decide +kernel), by decide +kernel, by decide +kernel⟩
  have hbefore : '<' ∉ "\nTax is ".toList := by decide +kernel
  have hafter : '<' ∉ "rounded.\n".toList := by decide +kernel
  have hcontent : ¬commentEnd <:+: guidance.toList := by decide +kernel
  exact ⟨hsection, hbefore, hafter, hcontent,
    (sectionText?_comment_iff hsection hbefore hafter hcontent).2 (by decide +kernel)⟩

/-- A comment may hide the prose behind it: it does if it shows a heading as an example. -/
theorem prose_hidden_by_comment :
    ¬∀ (template : Template) (heading : String) (least : Nat)
        (front before content after rest : String),
      (heading, least) ∈ template.minimums →
      StandsBetween heading (before ++ after) front rest →
      '<' ∉ before.toList → '<' ∉ after.toList → ¬commentEnd <:+: content.toList →
      sectionText? heading
          (front ++ heading ++ (before ++ "<!--" ++ content ++ "-->" ++ after) ++ rest) =
        sectionText? heading (front ++ heading ++ (before ++ after) ++ rest) := by
  intro htransparent
  have heq := htransparent .minor "## 📝 Description" 30 "" "\n" "\n## Example\n"
    "Totals are rounded when taxes apply.\n" "" (by decide)
    ⟨cut_eq_some_iff.1 (by decide +kernel), by decide +kernel, by decide +kernel⟩
    (by decide +kernel) (by decide +kernel) (by decide +kernel)
  revert heq
  decide +kernel

end SpecLint.PullRequest
