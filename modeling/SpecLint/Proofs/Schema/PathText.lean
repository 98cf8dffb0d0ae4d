import SpecLint.Schema.Path

/-!
Paths as texts. The points between the steps cut the text of a path into the texts of its steps as
long as no step has a point in it, and the brackets tell the steps that are no properties from those
that are, as long as no name starts with one. So a text belongs to one path below a label
(`text_eq_iff`), with one exception: without a label, the text of the path to a property without a
name is empty, as is that of the path that has no steps.
-/

namespace SpecLint.Schema

/-- The step may be taken for more than one step, or for a step of another kind. -/
def Segment.IsAmbiguous : Segment → Prop
  | .property name => '.' ∈ name.toList ∨ name.toList.head? = some '['
  | .items | .branch _ _ | .additionalProperties => False

namespace Segment

variable {a b : Segment}

theorem point_notMem_text (h : ¬a.IsAmbiguous) : '.' ∉ a.text.toList := by
  cases a with
  | property name =>
      intro hpoint
      exact h (.inl hpoint)
  | items => decide
  | branch kind index =>
      have hdigits : '.' ∉ Nat.toDigits 10 index := by
        intro hpoint
        exact absurd (Nat.isDigit_of_mem_toDigits (by decide) (by decide) hpoint) (by decide)
      have hkeyword : '.' ∉ kind.keyword.toList := by cases kind <;> decide
      simp [text, hdigits, hkeyword]
  | additionalProperties => decide

/-- Only a property has a text that does not start with a bracket. -/
theorem eq_property_of_text_eq {name : String} (h : a.text = name)
    (hname : ¬(property name).IsAmbiguous) : a = .property name := by
  have hbracket : name.toList.head? ≠ some '[' := fun hhead => hname (.inr hhead)
  subst h
  cases a with
  | property name => rfl
  | items => exact absurd rfl hbracket
  | branch kind index => exact absurd (by simp [text]) hbracket
  | additionalProperties => exact absurd rfl hbracket

theorem toList_text_branch (kind : Composition) (index : Nat) :
    (branch kind index).text.toList =
      '[' :: kind.keyword.toList ++ '[' :: Nat.toDigits 10 index ++ [']', ']'] := by
  simp [text]

theorem length_keyword (kind : Composition) : kind.keyword.toList.length = 5 := by
  cases kind <;> simp [Composition.keyword]

theorem branch_text_injective {kind other : Composition} {index place : Nat}
    (h : (branch kind index).text = (branch other place).text) :
    branch kind index = branch other place := by
  have hlist := congrArg String.toList h
  simp only [toList_text_branch, List.cons_append, List.append_assoc, List.cons.injEq,
    true_and] at hlist
  -- All keywords have the same length, so they end at the same place.
  obtain ⟨hkeyword, hrest⟩ :=
    List.append_inj hlist ((length_keyword kind).trans (length_keyword other).symm)
  have hkind : kind = other := by
    revert hkeyword
    cases kind <;> cases other <;> decide
  have hdigits := List.append_cancel_right (List.cons.inj hrest).2
  have hindex : index = place := by
    rw [← Nat.ofDigitChars_ten_toDigits (n := index), hdigits, Nat.ofDigitChars_ten_toDigits]
  rw [hkind, hindex]

theorem branch_text_ne (kind : Composition) (index : Nat) :
    (branch kind index).text ≠ items.text ∧
      (branch kind index).text ≠ additionalProperties.text := by
  constructor <;> intro h <;> have hlist := congrArg String.toList h <;>
    cases kind <;> simp [text, Composition.keyword] at hlist

theorem text_injective (ha : ¬a.IsAmbiguous) (hb : ¬b.IsAmbiguous) (h : a.text = b.text) :
    a = b := by
  cases a with
  | property name => exact (eq_property_of_text_eq h.symm ha).symm
  | items =>
      cases b with
      | property name => exact eq_property_of_text_eq h hb
      | items => rfl
      | branch other place => exact absurd h.symm (branch_text_ne other place).1
      | additionalProperties => exact absurd h (by decide)
  | branch kind index =>
      cases b with
      | property name => exact eq_property_of_text_eq h hb
      | items => exact absurd h (branch_text_ne kind index).1
      | branch other place => exact branch_text_injective h
      | additionalProperties => exact absurd h (branch_text_ne kind index).2
  | additionalProperties =>
      cases b with
      | property name => exact eq_property_of_text_eq h hb
      | items => exact absurd h (by decide)
      | branch other place => exact absurd h.symm (branch_text_ne other place).2
      | additionalProperties => rfl

end Segment

namespace FieldPath

/-- The text of a path without a label. -/
def stepsText (steps : List Segment) : String := ".".intercalate (steps.map Segment.text)

theorem text_of_label_eq {path : FieldPath} (h : path.label = "") :
    path.text = stepsText path.segments := by
  simp [text, stepsText, h]

theorem text_of_label_ne {path : FieldPath} (h : path.label ≠ "") :
    path.text = path.label ++
      if path.segments = [] then "" else "." ++ stepsText path.segments := by
  rw [text, if_neg (by simpa using h), stepsText]
  split
  · rename_i hnil
    simp [hnil]
  · rename_i hne
    rw [String.intercalate_cons_of_ne_nil (by simpa using hne), String.append_assoc]

variable {steps more : List Segment}

theorem stepsText_eq_empty_iff : stepsText steps = "" ↔ steps = [] ∨ steps = [.property ""] := by
  match steps with
  | [] => simp [stepsText]
  | [step] =>
      have hname : ¬(Segment.property "").IsAmbiguous := by simp [Segment.IsAmbiguous]
      have hstep : step.text = "" ↔ step = .property "" :=
        ⟨fun h => Segment.eq_property_of_text_eq h hname, fun h => h ▸ rfl⟩
      simp [stepsText, hstep]
  | step :: next :: rest => simp [stepsText]

theorem splitOn_stepsText (hne : steps ≠ []) (hplain : ∀ step ∈ steps, ¬step.IsAmbiguous) :
    (stepsText steps).toList.splitOn '.' = steps.map fun step => step.text.toList := by
  have hpoint : ∀ cs ∈ steps.map fun step => step.text.toList, '.' ∉ cs := by
    intro cs hcs
    obtain ⟨step, hstep, rfl⟩ := List.mem_map.1 hcs
    exact Segment.point_notMem_text (hplain step hstep)
  have hsplit := List.splitOn_intercalate '.' hpoint (by simpa using hne)
  rwa [stepsText, String.toList_intercalate, List.map_map]

theorem eq_of_map_text_eq (hsteps : ∀ step ∈ steps, ¬step.IsAmbiguous)
    (hmore : ∀ step ∈ more, ¬step.IsAmbiguous)
    (h : (steps.map fun step => step.text.toList) = more.map fun step => step.text.toList) :
    steps = more := by
  induction steps generalizing more with
  | nil => exact (List.map_eq_nil_iff.1 h.symm).symm
  | cons step steps ih =>
      cases more with
      | nil => cases h
      | cons next more =>
          obtain ⟨hstep, hsteps⟩ := List.forall_mem_cons.1 hsteps
          obtain ⟨hnext, hmore⟩ := List.forall_mem_cons.1 hmore
          obtain ⟨hhead, htail⟩ := List.cons.inj h
          rw [Segment.text_injective hstep hnext (String.toList_injective hhead),
            ih hsteps hmore htail]

/-- Steps that are not ambiguous are told by their text, but for the one property whose text is
empty. -/
theorem stepsText_eq_iff (hsteps : ∀ step ∈ steps, ¬step.IsAmbiguous)
    (hmore : ∀ step ∈ more, ¬step.IsAmbiguous) :
    stepsText steps = stepsText more ↔
      steps = more ∨ steps = [] ∧ more = [.property ""] ∨ steps = [.property ""] ∧ more = [] := by
  constructor
  · intro h
    by_cases hnil : steps = []
    · rw [hnil, eq_comm, stepsText_eq_empty_iff.2 (.inl rfl), stepsText_eq_empty_iff] at h
      rcases h with rfl | rfl
      · exact .inl hnil
      · exact .inr (.inl ⟨hnil, rfl⟩)
    · by_cases hnil' : more = []
      · rw [hnil', stepsText_eq_empty_iff.2 (.inl rfl), stepsText_eq_empty_iff] at h
        exact .inr (.inr ⟨h.resolve_left hnil, hnil'⟩)
      · refine .inl (eq_of_map_text_eq hsteps hmore ?_)
        rw [← splitOn_stepsText hnil hsteps, h, splitOn_stepsText hnil' hmore]
  · rintro (rfl | ⟨rfl, rfl⟩ | ⟨rfl, rfl⟩) <;> rfl

/-- Some step of the path may be taken for more than one step, or for a step of another kind. -/
def IsAmbiguous (path : FieldPath) : Prop := ∃ step ∈ path.segments, step.IsAmbiguous

/-- The path starts with the step to a property without a name. -/
def StartsNameless (path : FieldPath) : Prop := path.segments.head? = some (.property "")

variable {a b : FieldPath}

/-- Below one label, paths that are not ambiguous are told by their texts, but for the two paths
whose text is empty. -/
theorem text_eq_iff (hlabel : a.label = b.label) (ha : ¬a.IsAmbiguous) (hb : ¬b.IsAmbiguous) :
    a.text = b.text ↔ a = b ∨ a.label = "" ∧
      (a.segments = [] ∧ b.segments = [.property ""] ∨
        a.segments = [.property ""] ∧ b.segments = []) := by
  obtain ⟨label, steps⟩ := a
  obtain ⟨_, more⟩ := b
  obtain rfl : label = _ := hlabel
  have hsteps : ∀ step ∈ steps, ¬step.IsAmbiguous := fun step hmem h => ha ⟨step, hmem, h⟩
  have hmore : ∀ step ∈ more, ¬step.IsAmbiguous := fun step hmem h => hb ⟨step, hmem, h⟩
  constructor
  · intro h
    by_cases hempty : label = ""
    · rw [text_of_label_eq hempty, text_of_label_eq hempty, stepsText_eq_iff hsteps hmore] at h
      rcases h with rfl | h
      · exact .inl rfl
      · exact .inr ⟨hempty, h⟩
    · rw [text_of_label_ne hempty, text_of_label_ne hempty, String.append_right_inj] at h
      refine .inl ?_
      by_cases hnil : steps = [] <;> by_cases hnil' : more = []
      · rw [hnil, hnil']
      · simp [hnil, hnil'] at h
      · simp [hnil, hnil'] at h
      · simp only [hnil, hnil', if_false, String.append_right_inj,
          stepsText_eq_iff hsteps hmore] at h
        rw [h.resolve_right (by simp)]
  · rintro (h | ⟨rfl, ⟨rfl, rfl⟩ | ⟨rfl, rfl⟩⟩)
    · rw [h]
    · rfl
    · rfl

/-- Two paths below one label with the same text: one of them goes through a property whose name
has a point in it or starts with a bracket, or they have no label and one of them starts with a
property without a name. -/
theorem isAmbiguous_of_text_eq (hne : a ≠ b) (hlabel : a.label = b.label)
    (htext : a.text = b.text) :
    a.IsAmbiguous ∨ b.IsAmbiguous ∨ a.label = "" ∧ (a.StartsNameless ∨ b.StartsNameless) := by
  by_cases ha : a.IsAmbiguous
  · exact .inl ha
  · by_cases hb : b.IsAmbiguous
    · exact .inr (.inl hb)
    · obtain ⟨hempty, ⟨-, hnameless⟩ | ⟨hnameless, -⟩⟩ :=
        ((text_eq_iff hlabel ha hb).1 htext).resolve_left hne
      · exact .inr (.inr ⟨hempty, .inr (by rw [StartsNameless, hnameless]; rfl)⟩)
      · exact .inr (.inr ⟨hempty, .inl (by rw [StartsNameless, hnameless]; rfl)⟩)

/-- The items of the lines of an order, the second branch of which is taken, and the same with names
in place of the steps that are no properties. -/
theorem isAmbiguous_of_text_eq_lines :
    let taken : FieldPath := ⟨"Order", [.property "lines", .items, .branch .oneOf 1]⟩
    let named : FieldPath :=
      ⟨"Order", [.property "lines", .property "[items]", .property "[oneOf[1]]"]⟩
    taken ≠ named ∧ taken.label = named.label ∧ taken.text = named.text ∧
      (taken.IsAmbiguous ∨ named.IsAmbiguous ∨
        taken.label = "" ∧ (taken.StartsNameless ∨ named.StartsNameless)) := by
  intro taken named
  have hbranch : (Segment.branch .oneOf 1).text = "[oneOf[1]]" := by decide +kernel
  have hsteps : taken.segments.map Segment.text = named.segments.map Segment.text := by
    simp only [taken, named, List.map_cons, List.map_nil, hbranch]
    rfl
  have htext : taken.text = named.text := by
    rw [text, hsteps]
    rfl
  exact ⟨by decide, rfl, htext, isAmbiguous_of_text_eq (by decide) rfl htext⟩

end FieldPath

end SpecLint.Schema
