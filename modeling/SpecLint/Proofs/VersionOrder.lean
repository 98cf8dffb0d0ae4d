import SpecLint.Coordinate.Version

/-!
The order of version tags. One tag is compared by a rule of its own, also with tags whose texts come
after it; nevertheless the comparison is that of a linear order (the instances below), and so
sorting has one result for all orders of the same tags (`eq_sort_of_ascending`), which ends with the
tags of the revision that is still edited (`sort_eq_append`).
-/

namespace SpecLint.VersionTag

variable {a b c : VersionTag}

theorem isUnreleased_iff : a.isUnreleased = true ↔ a = unreleased := by
  rw [isUnreleased, beq_iff_eq]
  constructor
  · intro h
    cases a
    cases h
    rfl
  · rintro rfl
    rfl

theorem isUnreleased_eq_false_iff : a.isUnreleased = false ↔ a ≠ unreleased := by
  rw [← Bool.not_eq_true, isUnreleased_iff]

/-! ### Comparison -/

@[simp] theorem order_unreleased_left (h : a ≠ unreleased) : unreleased.order a = .gt := by
  rw [order, isUnreleased_iff.2 rfl, isUnreleased_eq_false_iff.2 h]

@[simp] theorem order_unreleased_right (h : a ≠ unreleased) : a.order unreleased = .lt := by
  rw [order, isUnreleased_iff.2 rfl, isUnreleased_eq_false_iff.2 h]

@[simp] theorem order_unreleased_self : unreleased.order unreleased = .eq := by
  rw [order, isUnreleased_iff.2 rfl]

theorem order_of_ne (ha : a ≠ unreleased) (hb : b ≠ unreleased) :
    a.order b = compare a.text b.text := by
  rw [order, isUnreleased_eq_false_iff.2 ha, isUnreleased_eq_false_iff.2 hb]

theorem order_swap (a b : VersionTag) : a.order b = (b.order a).swap := by
  by_cases ha : a = unreleased <;> by_cases hb : b = unreleased
  · subst ha hb
    simp
  · subst ha
    simp [hb]
  · subst hb
    simp [ha]
  · rw [order_of_ne ha hb, order_of_ne hb ha]
    exact Std.OrientedOrd.eq_swap

theorem order_trans (hab : (a.order b).isLE) (hbc : (b.order c).isLE) : (a.order c).isLE := by
  by_cases hc : c = unreleased
  · -- Nothing comes after the last tag.
    subst hc
    by_cases ha : a = unreleased
    · subst ha
      simp
    · simp [ha]
  · have hb : b ≠ unreleased := by
      rintro rfl
      simp [hc] at hbc
    have ha : a ≠ unreleased := by
      rintro rfl
      simp [hb] at hab
    rw [order_of_ne ha hb] at hab
    rw [order_of_ne hb hc] at hbc
    rw [order_of_ne ha hc]
    exact Std.TransOrd.isLE_trans hab hbc

theorem eq_of_order_eq (h : a.order b = .eq) : a = b := by
  by_cases ha : a = unreleased <;> by_cases hb : b = unreleased
  · rw [ha, hb]
  · subst ha
    simp [hb] at h
  · subst hb
    simp [ha] at h
  · rw [order_of_ne ha hb] at h
    have htext := Std.LawfulEqOrd.eq_of_compare h
    cases a
    cases b
    cases htext
    rfl

theorem order_self (a : VersionTag) : a.order a = .eq := by
  by_cases ha : a = unreleased
  · subst ha
    simp
  · rw [order_of_ne ha ha]
    exact Std.ReflOrd.compare_self

instance : Std.OrientedCmp order := ⟨order_swap _ _⟩

instance : Std.TransCmp order := ⟨order_trans⟩

instance : Std.LawfulEqCmp order := ⟨eq_of_order_eq⟩

theorem order_total (a b : VersionTag) : (a.order b).isLE ∨ (b.order a).isLE := by
  cases h : a.order b with
  | lt => exact .inl rfl
  | eq => exact .inl rfl
  | gt =>
      rw [Std.OrientedCmp.lt_of_gt h]
      exact .inr rfl

theorem eq_of_isLE (hab : (a.order b).isLE) (hba : (b.order a).isLE) : a = b :=
  eq_of_order_eq (Std.OrientedCmp.isLE_antisymm hab hba)

theorem order_eq_iff : a.order b = .eq ↔ a = b :=
  ⟨eq_of_order_eq, fun h => h ▸ order_self a⟩

/-- Two tags that were read, and not as the last one, stand in the order of what was read without
the blanks around it. -/
theorem order_eq_lt_iff {raw raw' : String} (hraw : parse raw = .ok a) (hraw' : parse raw' = .ok b)
    (ha : a ≠ unreleased) (hb : b ≠ unreleased) :
    a.order b = .lt ↔ List.Lex (· < ·) (Text.trim raw).toList (Text.trim raw').toList := by
  rw [order_of_ne ha hb, parse_eq_ok_iff.1 hraw, parse_eq_ok_iff.1 hraw']
  generalize Text.trim raw = s, Text.trim raw' = t
  exact compareOfLessAndEq_eq_lt

/-! ### Sorting -/

/-- No tag comes before one that stands earlier in the list. -/
def Ascending (tags : List VersionTag) : Prop :=
  tags.Pairwise fun a b => (a.order b).isLE

instance (tags : List VersionTag) : Decidable (Ascending tags) :=
  inferInstanceAs (Decidable (List.Pairwise _ _))

variable {tags other : List VersionTag}

theorem ascending_sort (tags : List VersionTag) : Ascending (sort tags) := by
  refine List.pairwise_mergeSort ?_ ?_ tags
  · intro a b c
    exact order_trans
  · intro a b
    rw [Bool.or_eq_true]
    exact order_total a b

theorem perm_sort (tags : List VersionTag) : (sort tags).Perm tags :=
  List.mergeSort_perm tags _

/-- There is one way to list given tags in ascending order. -/
theorem eq_sort_of_ascending (hperm : other.Perm tags) (h : Ascending other) :
    other = sort tags :=
  List.Perm.eq_of_pairwise (fun _ _ _ _ => eq_of_isLE) h (ascending_sort tags)
    (hperm.trans (perm_sort tags).symm)

theorem sort_eq_of_perm (h : other.Perm tags) : sort other = sort tags :=
  eq_sort_of_ascending ((perm_sort other).trans h) (ascending_sort other)

theorem sort_eq_append (tags : List VersionTag) :
    sort tags = sort (tags.filter (· != unreleased)) ++
      List.replicate (tags.count unreleased) unreleased := by
  have hrest : ∀ tag ∈ sort (tags.filter (· != unreleased)), tag ≠ unreleased := by
    intro tag htag
    have hmem := (perm_sort _).mem_iff.1 htag
    exact bne_iff_ne.1 (List.mem_filter.1 hmem).2
  symm
  refine eq_sort_of_ascending ?_ ?_
  · have hsplit := List.filter_append_perm (· != unreleased) tags
    rw [← List.filter_beq]
    simp only [bne, Bool.not_not] at hsplit ⊢
    exact ((perm_sort _).append_right _).trans hsplit
  · refine List.pairwise_append.2 ⟨ascending_sort _, ?_, ?_⟩
    · exact List.pairwise_replicate.2 (.inr (by simp))
    · intro tag htag last hlast
      rw [List.eq_of_mem_replicate hlast, order_unreleased_right (hrest tag htag)]
      rfl

/-- The order of tags is linear: either of two tags comes before the other unless they are equal,
and three tags are never in a circle. All tags are comparable. The tag of the revision that is still
edited comes after every other tag, and the others are in the order of the texts from which they
were read. So tags have one ascending order, whatever the order was in which they were given, and in
it the tag of the revision that is still edited stands only at the end. -/
theorem order_linear :
    (∀ a b : VersionTag, a.order b = (b.order a).swap) ∧
    (∀ a b : VersionTag, (a.order b).isLE → (b.order a).isLE → a = b) ∧
    (∀ a b c : VersionTag, (a.order b).isLE → (b.order c).isLE → (a.order c).isLE) ∧
    (∀ a b : VersionTag, (a.order b).isLE ∨ (b.order a).isLE) ∧
    (∀ a b : VersionTag, a.order b = .eq ↔ a = b) ∧
    (∀ a b : VersionTag, a.partialOrder? b = some (a.order b)) ∧
    (∀ tag : VersionTag, tag ≠ unreleased → tag.order unreleased = .lt) ∧
    (∀ raw raw' a b, parse raw = .ok a → parse raw' = .ok b → a ≠ unreleased → b ≠ unreleased →
      (a.order b = .lt ↔ List.Lex (· < ·) (Text.trim raw).toList (Text.trim raw').toList)) ∧
    ∀ tags : List VersionTag,
      (sort tags).Perm tags ∧ Ascending (sort tags) ∧
      (∀ other, other.Perm tags → sort other = sort tags) ∧
      (∀ other, other.Perm tags → Ascending other → other = sort tags) ∧
      ∃ released, unreleased ∉ released ∧
        sort tags = released ++ List.replicate (tags.count unreleased) unreleased := by
  refine ⟨order_swap, fun _ _ => eq_of_isLE, fun _ _ _ => order_trans, order_total,
    fun _ _ => order_eq_iff, fun _ _ => rfl, fun _ => order_unreleased_right,
    fun _ _ _ _ => order_eq_lt_iff, fun tags => ?_⟩
  refine ⟨perm_sort tags, ascending_sort tags, fun _ => sort_eq_of_perm,
    fun _ => eq_sort_of_ascending, sort (tags.filter (· != unreleased)), ?_, sort_eq_append tags⟩
  intro hmem
  have hfilter := (perm_sort _).mem_iff.1 hmem
  simp at hfilter

/-- A dated tag. -/
def dated : VersionTag := ⟨"2026-04-17", by decide +kernel⟩

/-- A tag whose text comes after the text of the last tag. -/
def late : VersionTag := ⟨"v2", by decide +kernel⟩

theorem order_linear_late :
    unreleased.text < late.text ∧ late.order unreleased = .lt ∧ dated.order late = .lt ∧
      sort [unreleased, late, unreleased, dated] = [dated, late, unreleased, unreleased] := by
  obtain ⟨-, -, -, -, -, -, hlast, htexts, hsort⟩ := order_linear
  refine ⟨by decide, hlast late (by decide), ?_, ?_⟩
  · have hdated : parse " 2026-04-17 " = .ok dated := parse_eq_ok_iff.2 (by decide +kernel)
    have hlate : parse "v2" = .ok late := parse_text late
    exact (htexts _ _ dated late hdated hlate (by decide) (by decide)).2 (by decide +kernel)
  · obtain ⟨-, -, -, hunique, -⟩ := hsort [unreleased, late, unreleased, dated]
    exact (hunique [dated, late, unreleased, unreleased] (by decide) (by decide +kernel)).symm

end SpecLint.VersionTag
