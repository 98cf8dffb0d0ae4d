import Mathlib.Data.List.Sort
import SpecLint.Coordinate.FamilyTable

/-!
Tables by family as what they hold. The order of the entries is fixed, so a table is known by what
it has for each family: where two tables agree on some families, their entries for these are the
same list (`filter_entries_eq`), and going through the entries of one table to look each family up
in another meets the same pairs in the same order whichever of the two is gone through
(`flatMap_get?_comm`).
-/

namespace SpecLint.FamilyTable

variable {α β γ : Type}

/-- Entries of two families in the order of their names. -/
def EntryLt (a b : Family × α) : Prop := a.1.text < b.1.text

instance : Std.Irrefl (EntryLt (α := α)) := ⟨fun a => String.lt_irrefl a.1.text⟩

instance : Std.Antisymm (EntryLt (α := α)) :=
  ⟨fun a _ hab hba => absurd (String.lt_trans hab hba) (String.lt_irrefl a.1.text)⟩

theorem get?_eq_some_iff {table : FamilyTable α} {family : Family} {value : α} :
    table.get? family = some value ↔ (family, value) ∈ table.entries := by
  obtain ⟨entries, hordered⟩ := table
  show entries.lookup family = some value ↔ (family, value) ∈ entries
  induction entries with
  | nil => simp
  | cons head rest ih =>
      obtain ⟨f, v⟩ := head
      obtain ⟨hhead, hrest⟩ := List.pairwise_cons.1 hordered
      rw [lookup_entry, List.mem_cons, Prod.mk.injEq]
      split
      · rename_i heq
        subst heq
        constructor
        · rintro ⟨⟩
          exact Or.inl ⟨rfl, rfl⟩
        · rintro (⟨-, rfl⟩ | hmem)
          · rfl
          · exact absurd (hhead _ hmem) (String.lt_irrefl _)
      · rename_i hne
        simpa [hne] using ih hrest

/-- Tables that agree on some families have the same entries for these. -/
theorem filter_entries_eq {s t : FamilyTable α} (keep : Family → Bool)
    (h : ∀ family, keep family = true → s.get? family = t.get? family) :
    (s.entries.filter fun entry => keep entry.1) = t.entries.filter fun entry => keep entry.1 := by
  have hs : s.entries.Pairwise EntryLt := s.ordered
  have ht : t.entries.Pairwise EntryLt := t.ordered
  refine (hs.filter _).eq_of_mem_iff (ht.filter _) ?_
  rintro ⟨family, value⟩
  simp only [List.mem_filter, ← get?_eq_some_iff]
  constructor
  · rintro ⟨hget, hkeep⟩
    exact ⟨h family hkeep ▸ hget, hkeep⟩
  · rintro ⟨hget, hkeep⟩
    exact ⟨(h family hkeep).symm ▸ hget, hkeep⟩

theorem filter_entries_family (table : FamilyTable α) (family : Family) :
    (table.entries.filter fun entry => entry.1 = family) =
      (table.get? family).toList.map fun value => (family, value) := by
  have hentries : table.entries.Pairwise EntryLt := table.ordered
  have hsingle : ((table.get? family).toList.map fun value => (family, value)).Pairwise
      EntryLt := by
    cases table.get? family <;> simp
  refine (hentries.filter _).eq_of_mem_iff hsingle ?_
  rintro ⟨other, value⟩
  simp only [List.mem_filter, decide_eq_true_eq, List.mem_map, Option.mem_toList, Prod.mk.injEq,
    get?_eq_some_iff]
  constructor
  · rintro ⟨hmem, rfl⟩
    exact ⟨value, hmem, rfl, rfl⟩
  · rintro ⟨_, hmem, rfl, rfl⟩
    exact ⟨hmem, rfl⟩

theorem get?_foldl_insert (value : Family → α) (families : List Family) (table : FamilyTable α)
    (family : Family) :
    (families.foldl (fun table f => table.insert f (value f)) table).get? family =
      if family ∈ families then some (value family) else table.get? family := by
  induction families generalizing table with
  | nil => simp
  | cons f families ih =>
      rw [List.foldl_cons, ih, get?_insert]
      by_cases heq : family = f
      · simp [heq]
      · simp [heq]

/-- In a table of what some families have, a family has its value wherever it is listed. -/
theorem get?_ofList_map (value : Family → α) (families : List Family) (family : Family) :
    (ofList (families.map fun f => (f, value f))).get? family =
      if family ∈ families then some (value family) else none := by
  have hfold := get?_foldl_insert value families empty family
  rw [get?_empty] at hfold
  rw [ofList, List.foldl_map]
  exact hfold

theorem mem_families_iff {table : FamilyTable α} {family : Family} :
    family ∈ table.families ↔ ∃ value, table.get? family = some value := by
  simp only [families, List.mem_map, get?_eq_some_iff, Prod.exists]
  constructor
  · rintro ⟨_, value, hmem, rfl⟩
    exact ⟨value, hmem⟩
  · rintro ⟨value, hmem⟩
    exact ⟨family, value, hmem, rfl⟩

theorem pairwise_families (table : FamilyTable α) :
    table.families.Pairwise fun a b => a.text < b.text :=
  List.pairwise_map.2 table.ordered

/-- Tables of the same families list them in the same way. -/
theorem families_eq_of_mem_iff {s : FamilyTable α} {t : FamilyTable β}
    (h : ∀ family, family ∈ s.families ↔ family ∈ t.families) : s.families = t.families := by
  have hirrefl : Std.Irrefl fun a b : Family => a.text < b.text :=
    ⟨fun a => String.lt_irrefl a.text⟩
  have hantisymm : Std.Antisymm fun a b : Family => a.text < b.text :=
    ⟨fun a _ hab hba => absurd (String.lt_trans hab hba) (String.lt_irrefl a.text)⟩
  exact s.pairwise_families.eq_of_mem_iff t.pairwise_families h

/-- The families of both tables with their values. -/
def both (s : FamilyTable α) (t : FamilyTable β) : List (Family × α × β) :=
  s.entries.filterMap fun entry => (t.get? entry.1).map fun other => (entry.1, entry.2, other)

theorem mem_both_iff {s : FamilyTable α} {t : FamilyTable β} {family : Family} {a : α} {b : β} :
    (family, a, b) ∈ s.both t ↔ s.get? family = some a ∧ t.get? family = some b := by
  rw [get?_eq_some_iff]
  simp only [both, List.mem_filterMap, Option.map_eq_some_iff, Prod.mk.injEq, Prod.exists]
  constructor
  · rintro ⟨_, _, hmem, _, hget, rfl, rfl, rfl⟩
    exact ⟨hmem, hget⟩
  · rintro ⟨hmem, hget⟩
    exact ⟨family, a, hmem, b, hget, rfl, rfl, rfl⟩

theorem pairwise_both (s : FamilyTable α) (t : FamilyTable β) : (s.both t).Pairwise EntryLt := by
  refine List.Pairwise.filterMap _ ?_ s.ordered
  intro a b hlt x hx y hy
  obtain ⟨_, -, rfl⟩ := Option.map_eq_some_iff.1 hx
  obtain ⟨_, -, rfl⟩ := Option.map_eq_some_iff.1 hy
  exact hlt

theorem both_comm (s : FamilyTable α) (t : FamilyTable β) :
    s.both t = (t.both s).map fun (family, b, a) => (family, a, b) := by
  have hmap : ((t.both s).map fun (family, b, a) => (family, a, b)).Pairwise EntryLt :=
    List.pairwise_map.2 (pairwise_both t s)
  refine (pairwise_both s t).eq_of_mem_iff hmap ?_
  rintro ⟨family, a, b⟩
  simp [mem_both_iff, and_comm]

theorem flatMap_both (s : FamilyTable α) (t : FamilyTable β) (f : Family → α → β → List γ) :
    (s.entries.flatMap fun entry =>
      match t.get? entry.1 with
      | some other => f entry.1 entry.2 other
      | none => []) = (s.both t).flatMap fun (family, a, b) => f family a b := by
  unfold both
  induction s.entries with
  | nil => rfl
  | cons entry rest ih =>
      rw [List.flatMap_cons, ih, List.filterMap_cons]
      cases t.get? entry.1 <;> simp

/-- Either of two tables may be gone through to look its families up in the other. -/
theorem flatMap_get?_comm (s : FamilyTable α) (t : FamilyTable β) (f : Family → α → β → List γ) :
    (s.entries.flatMap fun entry =>
      match t.get? entry.1 with
      | some other => f entry.1 entry.2 other
      | none => []) =
    t.entries.flatMap fun entry =>
      match s.get? entry.1 with
      | some other => f entry.1 other entry.2
      | none => [] := by
  -- Either loop goes through the families of both tables, and these have one order.
  rw [flatMap_both s t, flatMap_both t s fun family b a => f family a b, both_comm s t,
    List.flatMap_map]

end SpecLint.FamilyTable

namespace SpecLint.Family

theorem mem_distinct_iff {families : List Family} {family : Family} :
    family ∈ distinct families ↔ family ∈ families := by
  rw [distinct, FamilyTable.mem_families_iff, FamilyTable.get?_ofList_map fun _ => ()]
  simp

end SpecLint.Family
