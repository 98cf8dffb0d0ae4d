import Mathlib.Data.List.Infix
import SpecLint.Proofs.PullRequest.Section
import SpecLint.Proofs.Text.Blank
import SpecLint.PullRequest.Check

/-!
The verdict on a pull request. Which template a body follows, what is wrong with a title, which
headings are missing and which sections are thin are said here without the checks; the verdict is
put together from these answers, and `check_exact` says that the check comes to it and to no other.
-/

namespace SpecLint.PullRequest

open Text

variable {title body : String}

/-! ### Templates -/

namespace Template

/-- Both headings that mark the template occur in the body. -/
def Marks (template : Template) (body : String) : Prop :=
  ∀ marker ∈ template.markers, marker.toList <:+: body.toList

/-- The body is marked as one of the template; a body with the marks of both is a minor one. -/
def IsFollowedIn (template : Template) (body : String) : Prop :=
  template.Marks body ∧ (template = .sep → ¬Marks .minor body)

theorem isMarked_iff {template : Template} :
    isMarked template body = true ↔ template.Marks body := by
  simp only [isMarked, Marks, List.all_eq_true, contains_iff]

theorem detect_eq_some_iff {template : Template} :
    detect body = some template ↔ template.IsFollowedIn body := by
  simp only [detect, IsFollowedIn, ← isMarked_iff]
  by_cases hminor : isMarked .minor body = true
  · cases template <;> simp [hminor]
  · by_cases hsep : isMarked .sep body = true
    · cases template <;> simp [hminor, hsep]
    · cases template <;> simp [hminor, hsep]

theorem detect_eq_none_iff :
    detect body = none ↔ ∀ template : Template, ¬template.IsFollowedIn body := by
  simp only [← detect_eq_some_iff, Option.eq_none_iff_forall_ne_some, ne_eq]

/-- A body that follows a template is not blank. -/
theorem IsFollowedIn.exists_isBlank_eq_false {template : Template}
    (h : template.IsFollowedIn body) : ∃ c ∈ body.toList, isBlank c = false := by
  obtain ⟨marker, hmarker, hmark⟩ : ∃ marker ∈ template.markers, '#' ∈ marker.toList := by
    cases template <;> exact ⟨_, List.mem_cons_self, by simp⟩
  exact ⟨'#', (h.1 marker hmarker).subset hmark, by decide⟩

/-- The headings of the template that do not occur in the body. -/
def missing (template : Template) (body : String) : List String :=
  template.headings.filter fun heading => ¬heading.toList <:+: body.toList

/-- The sections of the body that say less than the template asks for. -/
def thin (template : Template) (body : String) : List (String × Nat) :=
  template.minimums.filter fun (heading, least) => IsThin body heading least

theorem mem_missing_iff {template : Template} {heading : String} :
    heading ∈ template.missing body ↔
      heading ∈ template.headings ∧ ¬heading.toList <:+: body.toList := by
  simp only [missing, List.mem_filter, decide_eq_true_eq]

theorem mem_thin_iff {template : Template} {heading : String} {least : Nat} :
    (heading, least) ∈ template.thin body ↔
      (heading, least) ∈ template.minimums ∧ IsThin body heading least := by
  simp only [thin, List.mem_filter, decide_eq_true_eq]

end Template

/-! ### Titles -/

/-- What is wrong with a title, without the blanks at its ends, under a template. A title with
several flaws has the first of them. -/
inductive TitleFlaw (title : String) : Template → Problem → Prop where
  | empty {template : Template} (empty : trim title = "") : TitleFlaw title template .emptyTitle
  | short {template : Template} (nonempty : trim title ≠ "")
      (short : (trim title).length < minTitleLength) : TitleFlaw title template .titleTooShort
  | unmarked (long : minTitleLength ≤ (trim title).length)
      (unmarked : ¬"SEP:".toList <+: (trim title).toList) : TitleFlaw title .sep .missingSepStart
  | sepPlaceholder {rest : String} (long : minTitleLength ≤ (trim title).length)
      (marked : trim title = "SEP:" ++ rest) (bare : trim rest = "" ∨ trim rest = placeholder) :
      TitleFlaw title .sep .sepPlaceholderTitle
  | placeholder (long : minTitleLength ≤ (trim title).length)
      (bare : trim title = placeholder ∨ trim title = sepPlaceholder) :
      TitleFlaw title .minor (.placeholderTitle (trim title))

namespace Problem

/-- Whether the problem is one of the title. -/
def isAboutTitle : Problem → Bool
  | .emptyTitle | .titleTooShort | .missingSepStart | .sepPlaceholderTitle
  | .placeholderTitle _ => true
  | .emptyBody | .unknownTemplate | .missingSections _ _ | .thinSection _ _ => false

end Problem

theorem TitleFlaw.isAboutTitle {template : Template} {problem : Problem}
    (h : TitleFlaw title template problem) : problem.isAboutTitle = true := by
  cases h <;> rfl

theorem titleProblem?_of_empty {template : Template} (h : trim title = "") :
    titleProblem? template title = some .emptyTitle := by
  simp [titleProblem?, h]

theorem titleProblem?_of_short {template : Template} (hempty : trim title ≠ "")
    (hshort : (trim title).length < minTitleLength) :
    titleProblem? template title = some .titleTooShort := by
  simp [titleProblem?, hempty, hshort]

section Long

variable (hlong : minTitleLength ≤ (trim title).length)

include hlong

theorem trim_ne_empty_of_long : trim title ≠ "" := by
  intro hempty
  rw [hempty] at hlong
  exact absurd hlong (by decide)

theorem titleProblem?_minor_of_long :
    titleProblem? .minor title =
      if trim title = placeholder ∨ trim title = sepPlaceholder then
        some (.placeholderTitle (trim title))
      else none := by
  simp [titleProblem?, trim_ne_empty_of_long hlong, Nat.not_lt.2 hlong]

theorem titleProblem?_sep_of_unmarked (h : ¬"SEP:".toList <+: (trim title).toList) :
    titleProblem? .sep title = some .missingSepStart := by
  have hstart : afterStart "SEP:".toList (trim title).toList = none := by
    rw [Option.eq_none_iff_forall_ne_some]
    intro rest hrest
    exact h ⟨rest, (afterStart_eq_some_iff.1 hrest).symm⟩
  simp only [titleProblem?, beq_iff_eq, trim_ne_empty_of_long hlong, if_false,
    Nat.not_lt.2 hlong, hstart]

theorem titleProblem?_sep_of_marked {rest : String} (h : trim title = "SEP:" ++ rest) :
    titleProblem? .sep title =
      if trim rest = "" ∨ trim rest = placeholder then some .sepPlaceholderTitle else none := by
  have hstart : afterStart "SEP:".toList (trim title).toList = some rest.toList := by
    rw [afterStart_eq_some_iff, h, String.toList_append]
  simp only [titleProblem?, beq_iff_eq, trim_ne_empty_of_long hlong, if_false,
    Nat.not_lt.2 hlong, hstart, trim_eq_iff, Bool.or_eq_true, String.toList_empty]

end Long

/-- The title of a pull request is found to have a flaw just if it has that flaw. -/
theorem titleProblem?_eq_some_iff {template : Template} {problem : Problem} :
    titleProblem? template title = some problem ↔ TitleFlaw title template problem := by
  constructor
  · intro h
    by_cases hempty : trim title = ""
    · rw [titleProblem?_of_empty hempty] at h
      cases h
      exact .empty hempty
    by_cases hshort : (trim title).length < minTitleLength
    · rw [titleProblem?_of_short hempty hshort] at h
      cases h
      exact .short hempty hshort
    have hlong := Nat.not_lt.1 hshort
    cases template with
    | minor =>
        rw [titleProblem?_minor_of_long hlong, Option.ite_none_right_eq_some] at h
        obtain ⟨hplaceholder, hproblem⟩ := h
        cases hproblem
        exact .placeholder hlong hplaceholder
    | sep =>
        by_cases hmarked : "SEP:".toList <+: (trim title).toList
        · obtain ⟨rest, hrest⟩ := hmarked
          have htitle : trim title = "SEP:" ++ String.ofList rest := by
            rw [← String.toList_inj, String.toList_append, ← hrest]
            exact congrArg _ String.toList_ofList.symm
          rw [titleProblem?_sep_of_marked hlong htitle, Option.ite_none_right_eq_some] at h
          obtain ⟨hplaceholder, hproblem⟩ := h
          cases hproblem
          exact .sepPlaceholder hlong htitle hplaceholder
        · rw [titleProblem?_sep_of_unmarked hlong hmarked] at h
          cases h
          exact .unmarked hlong hmarked
  · intro h
    cases h with
    | empty hempty => exact titleProblem?_of_empty hempty
    | short hempty hshort => exact titleProblem?_of_short hempty hshort
    | unmarked hlong hunmarked => exact titleProblem?_sep_of_unmarked hlong hunmarked
    | sepPlaceholder hlong htitle hrest =>
        rw [titleProblem?_sep_of_marked hlong htitle, if_pos hrest]
    | placeholder hlong htitle => rw [titleProblem?_minor_of_long hlong, if_pos htitle]

theorem titleProblem?_trim (template : Template) (title : String) :
    titleProblem? template (trim title) = titleProblem? template title := by
  simp only [titleProblem?, trim_trim]

/-! ### The verdict -/

/-- The problems of a body that follows a template: the headings it lacks, as one problem, and then
its thin sections, in the order of the template. -/
def bodyProblems (template : Template) (body : String) : List Problem :=
  (if template.missing body = [] then []
    else [.missingSections template (template.missing body)]) ++
    (template.thin body).map fun (heading, least) => .thinSection heading least

/-- What the check of a title and a body has to come to. -/
inductive IsVerdict (title body : String) : Check → Prop where
  | emptyBody (blank : ∀ c ∈ body.toList, isBlank c = true) :
      IsVerdict title body ⟨none, [.emptyBody]⟩
  | unknownTemplate (nonblank : ∃ c ∈ body.toList, isBlank c = false)
      (unknown : ∀ template : Template, ¬template.IsFollowedIn body) :
      IsVerdict title body ⟨none, [.unknownTemplate]⟩
  | known {template : Template} {flaw : Option Problem} (followed : template.IsFollowedIn body)
      (flaws : ∀ problem, flaw = some problem ↔ TitleFlaw title template problem) :
      IsVerdict title body ⟨some template, flaw.toList ++ bodyProblems template body⟩

theorem missingProblem?_toList (template : Template) (body : String) :
    (missingProblem? template body).toList =
      if template.missing body = [] then []
      else [.missingSections template (template.missing body)] := by
  have hmissing : (template.headings.filter fun heading => !contains heading body) =
      template.missing body := by
    refine List.filter_congr fun heading _ => ?_
    rw [Bool.eq_iff_iff, Bool.not_eq_true', ← Bool.not_eq_true, contains_iff, decide_eq_true_eq]
  simp only [missingProblem?, hmissing, List.isEmpty_iff]
  split <;> rfl

theorem thinProblems_eq (template : Template) (body : String) :
    thinProblems template body =
      (template.thin body).map fun (heading, least) => .thinSection heading least := by
  rw [thinProblems, Template.thin, ← List.filterMap_eq_map, List.filterMap_filter]
  refine List.filterMap_congr fun (heading, least) _ => ?_
  cases hsection : sectionText? heading body with
  | none => simp [isThin_iff, hsection]
  | some text => simp [isThin_iff, hsection]

theorem check_of_isFollowedIn {template : Template} (h : template.IsFollowedIn body) :
    check title body =
      ⟨some template, (titleProblem? template title).toList ++ bodyProblems template body⟩ := by
  have hnonblank := isBlankText_eq_false_iff.2 h.exists_isBlank_eq_false
  simp only [check, hnonblank, Bool.false_eq_true, if_false, Template.detect_eq_some_iff.2 h,
    missingProblem?_toList, thinProblems_eq, bodyProblems, List.append_assoc]

theorem check_eq_iff {result : Check} :
    check title body = result ↔ IsVerdict title body result := by
  constructor
  · rintro rfl
    by_cases hblank : isBlankText body = true
    · rw [check, if_pos hblank]
      exact .emptyBody (isBlankText_iff.1 hblank)
    · cases hdetect : Template.detect body with
      | none =>
          rw [check, if_neg hblank, hdetect]
          rw [Bool.not_eq_true] at hblank
          exact .unknownTemplate (isBlankText_eq_false_iff.1 hblank)
            (Template.detect_eq_none_iff.1 hdetect)
      | some template =>
          have hfollowed := Template.detect_eq_some_iff.1 hdetect
          rw [check_of_isFollowedIn hfollowed]
          exact .known hfollowed fun _ => titleProblem?_eq_some_iff
  · intro h
    cases h with
    | emptyBody hblank => rw [check, if_pos (isBlankText_iff.2 hblank)]
    | unknownTemplate hnonblank hunknown =>
        simp only [check, isBlankText_eq_false_iff.2 hnonblank, Bool.false_eq_true, if_false,
          Template.detect_eq_none_iff.2 hunknown]
    | @known template flaw hfollowed hflaws =>
        have hflaw : titleProblem? template title = flaw :=
          Option.ext fun problem => titleProblem?_eq_some_iff.trans (hflaws problem).symm
        rw [check_of_isFollowedIn hfollowed, hflaw]

/-! ### What a verdict says -/

section Consequences

variable {template : Template} {heading : String}

theorem isAboutTitle_of_mem_bodyProblems {problem : Problem}
    (h : problem ∈ bodyProblems template body) : problem.isAboutTitle = false := by
  rcases List.mem_append.1 h with h | h
  · split at h
    · cases h
    · obtain rfl := List.mem_singleton.1 h
      rfl
  · obtain ⟨_, -, rfl⟩ := List.mem_map.1 h
    rfl

theorem eq_missing_of_mem_bodyProblems {other : Template} {headings : List String}
    (h : .missingSections other headings ∈ bodyProblems template body) :
    other = template ∧ headings = template.missing body := by
  rcases List.mem_append.1 h with h | h
  · split at h
    · cases h
    · simpa using h
  · simp at h

theorem mem_thin_of_mem_bodyProblems {least : Nat}
    (h : .thinSection heading least ∈ bodyProblems template body) :
    (heading, least) ∈ template.thin body := by
  rcases List.mem_append.1 h with h | h
  · split at h <;> simp at h
  · obtain ⟨_, hthin, heq⟩ := List.mem_map.1 h
    cases heq
    exact hthin

theorem bodyProblems_eq_nil_iff :
    bodyProblems template body = [] ↔
      (∀ heading ∈ template.headings, heading.toList <:+: body.toList) ∧
        ∀ heading least, (heading, least) ∈ template.minimums → ¬IsThin body heading least := by
  rw [bodyProblems, List.append_eq_nil_iff, List.map_eq_nil_iff]
  refine and_congr ?_ ?_
  · simp [Template.missing, List.filter_eq_nil_iff]
  · simp [Template.thin, List.filter_eq_nil_iff]

/-- A body that follows no template has one problem, whatever the title is. -/
theorem exists_check_eq (h : ∀ template : Template, ¬template.IsFollowedIn body) :
    ∃ problem, (problem = .emptyBody ∨ problem = .unknownTemplate) ∧
      ∀ title, check title body = ⟨none, [problem]⟩ := by
  by_cases hblank : isBlankText body = true
  · exact ⟨.emptyBody, .inl rfl, fun title => by rw [check, if_pos hblank]⟩
  · refine ⟨.unknownTemplate, .inr rfl, fun title => ?_⟩
    rw [check, if_neg hblank, Template.detect_eq_none_iff.2 h]

theorem mem_problems_iff {problem : Problem} (h : template.IsFollowedIn body) :
    problem ∈ (check title body).problems ↔
      TitleFlaw title template problem ∨ problem ∈ bodyProblems template body := by
  rw [check_of_isFollowedIn h, List.mem_append, Option.mem_toList, titleProblem?_eq_some_iff]

theorem missing_of_mem_problems {headings : List String}
    (h : .missingSections template headings ∈ (check title body).problems) :
    template.IsFollowedIn body ∧ headings = template.missing body := by
  by_cases hfollowed : ∃ followed : Template, followed.IsFollowedIn body
  · obtain ⟨followed, hfollowed⟩ := hfollowed
    rcases (mem_problems_iff hfollowed).1 h with hflaw | hbody
    · cases hflaw
    · obtain ⟨rfl, hheadings⟩ := eq_missing_of_mem_bodyProblems hbody
      exact ⟨hfollowed, hheadings⟩
  · obtain ⟨problem, hproblem, hcheck⟩ := exists_check_eq (not_exists.1 hfollowed)
    rw [hcheck, List.mem_singleton] at h
    subst h
    simp at hproblem

theorem isThin_of_mem_problems (h : template.IsFollowedIn body) {least : Nat}
    (hthin : .thinSection heading least ∈ (check title body).problems) :
    IsThin body heading least := by
  rcases (mem_problems_iff h).1 hthin with hflaw | hbody
  · cases hflaw
  · exact (Template.mem_thin_iff.1 (mem_thin_of_mem_bodyProblems hbody)).2

theorem filter_problems_of_isFollowedIn (h : template.IsFollowedIn body) :
    ((check title body).problems.filter fun problem => !problem.isAboutTitle) =
      bodyProblems template body := by
  have htitle : ((titleProblem? template title).toList.filter fun problem =>
      !problem.isAboutTitle) = [] := by
    rw [List.filter_eq_nil_iff]
    intro problem hproblem
    have hflaw := titleProblem?_eq_some_iff.1 (Option.mem_toList.1 hproblem)
    simp [hflaw.isAboutTitle]
  have hbody : ((bodyProblems template body).filter fun problem => !problem.isAboutTitle) =
      bodyProblems template body := by
    rw [List.filter_eq_self]
    intro problem hproblem
    simp [isAboutTitle_of_mem_bodyProblems hproblem]
  rw [check_of_isFollowedIn h, List.filter_append, htitle, hbody, List.nil_append]

/-- What is said about the body is said under every title. -/
theorem body_problems_eq (title other body : String) :
    (check other body).template = (check title body).template ∧
      ((check other body).problems.filter fun problem => !problem.isAboutTitle) =
        (check title body).problems.filter fun problem => !problem.isAboutTitle := by
  by_cases hfollowed : ∃ followed : Template, followed.IsFollowedIn body
  · obtain ⟨followed, hfollowed⟩ := hfollowed
    rw [filter_problems_of_isFollowedIn hfollowed, filter_problems_of_isFollowedIn hfollowed,
      check_of_isFollowedIn hfollowed, check_of_isFollowedIn hfollowed]
    exact ⟨rfl, rfl⟩
  · obtain ⟨problem, -, hcheck⟩ := exists_check_eq (not_exists.1 hfollowed)
    rw [hcheck, hcheck]
    exact ⟨rfl, rfl⟩

theorem check_trim (title body : String) : check (trim title) body = check title body := by
  simp only [check, titleProblem?_trim]

theorem problems_eq_nil_iff (h : template.IsFollowedIn body) :
    (check title body).problems = [] ↔
      (∀ problem, ¬TitleFlaw title template problem) ∧ bodyProblems template body = [] := by
  rw [check_of_isFollowedIn h, List.append_eq_nil_iff, Option.toList_eq_nil_iff,
    Option.eq_none_iff_forall_ne_some]
  simp only [ne_eq, titleProblem?_eq_some_iff]

theorem isClean_iff :
    (check title body).isClean = true ↔
      ∃ template : Template, template.IsFollowedIn body ∧
        (∀ problem, ¬TitleFlaw title template problem) ∧
        (∀ heading ∈ template.headings, heading.toList <:+: body.toList) ∧
        ∀ heading least, (heading, least) ∈ template.minimums → ¬IsThin body heading least := by
  rw [Check.isClean, List.isEmpty_iff]
  constructor
  · intro h
    by_cases hfollowed : ∃ followed : Template, followed.IsFollowedIn body
    · obtain ⟨template, hfollowed⟩ := hfollowed
      obtain ⟨hflaws, hbody⟩ := (problems_eq_nil_iff hfollowed).1 h
      exact ⟨template, hfollowed, hflaws, bodyProblems_eq_nil_iff.1 hbody⟩
    · obtain ⟨problem, -, hcheck⟩ := exists_check_eq (not_exists.1 hfollowed)
      rw [hcheck] at h
      cases h
  · rintro ⟨template, hfollowed, hflaws, hbody⟩
    exact (problems_eq_nil_iff hfollowed).2 ⟨hflaws, bodyProblems_eq_nil_iff.2 hbody⟩

theorem exitCode_eq_zero_iff (result : Check) : result.exitCode = 0 ↔ result.isClean = true := by
  unfold Check.exitCode
  split <;> simp_all

end Consequences

/-- A body with the two marks of the minor template and no other heading. Under the second mark
there are a comment and one word. -/
def thinBody : String :=
  "## 🔧 Type of Change\n- [x] Fix\n## 📝 Description\n<!-- What was changed, and why? -->\nTypo.\n"

end SpecLint.PullRequest
