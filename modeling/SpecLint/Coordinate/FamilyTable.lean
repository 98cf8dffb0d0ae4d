import SpecLint.Coordinate.Family

/-!
Tables by family: one value for each of some families, in order of their names. `get?_insert` says
what a table holds after an insertion; the order is part of the type.
-/

namespace SpecLint

/-- Values by family. -/
structure FamilyTable (α : Type) where
  entries : List (Family × α)
  ordered : entries.Pairwise fun a b => a.1.text < b.1.text

namespace FamilyTable

variable {α : Type}

def empty : FamilyTable α := ⟨[], .nil⟩

instance : Inhabited (FamilyTable α) := ⟨empty⟩

/-- Entries with one more at its place, in place of an entry of the same family. -/
def insertEntry (family : Family) (value : α) : List (Family × α) → List (Family × α)
  | [] => [(family, value)]
  | (f, v) :: rest =>
    if family.text < f.text then (family, value) :: (f, v) :: rest
    else if family = f then (family, value) :: rest
    else (f, v) :: insertEntry family value rest

theorem mem_insertEntry {family : Family} {value : α} {entries : List (Family × α)}
    {entry : Family × α} (h : entry ∈ insertEntry family value entries) :
    entry = (family, value) ∨ entry ∈ entries := by
  induction entries with
  | nil => simpa [insertEntry] using h
  | cons head rest ih =>
    obtain ⟨f, v⟩ := head
    simp only [insertEntry] at h
    split at h
    · simpa using h
    · split at h
      · rcases List.mem_cons.1 h with h | h
        · exact Or.inl h
        · exact Or.inr (List.mem_cons_of_mem _ h)
      · rcases List.mem_cons.1 h with h | h
        · exact Or.inr (h ▸ List.mem_cons_self)
        · rcases ih h with h | h
          · exact Or.inl h
          · exact Or.inr (List.mem_cons_of_mem _ h)

theorem eq_of_text_eq {a b : Family} (h : a.text = b.text) : a = b := by
  cases a
  cases b
  cases h
  rfl

theorem pairwise_insertEntry (family : Family) (value : α) {entries : List (Family × α)}
    (h : entries.Pairwise fun a b => a.1.text < b.1.text) :
    (insertEntry family value entries).Pairwise fun a b => a.1.text < b.1.text := by
  induction entries with
  | nil => simp [insertEntry]
  | cons head rest ih =>
    obtain ⟨f, v⟩ := head
    obtain ⟨hhead, hrest⟩ := List.pairwise_cons.1 h
    simp only [insertEntry]
    split
    · rename_i hlt
      refine List.pairwise_cons.2 ⟨?_, h⟩
      intro entry hentry
      rcases List.mem_cons.1 hentry with rfl | hentry
      · exact hlt
      · exact String.lt_trans hlt (hhead entry hentry)
    · split
      · rename_i hfamily
        subst hfamily
        exact List.pairwise_cons.2 ⟨hhead, hrest⟩
      · rename_i hnlt hne
        refine List.pairwise_cons.2 ⟨?_, ih hrest⟩
        intro entry hentry
        rcases mem_insertEntry hentry with rfl | hentry
        · rcases Std.lt_trichotomy f.text family.text with h | h | h
          · exact h
          · exact absurd (eq_of_text_eq h).symm hne
          · exact absurd h hnlt
        · exact hhead entry hentry

/-- The table with a value for a family, in place of the former one. -/
def insert (table : FamilyTable α) (family : Family) (value : α) : FamilyTable α :=
  ⟨insertEntry family value table.entries, pairwise_insertEntry family value table.ordered⟩

/-- The table of some entries; of two for one family the later. -/
def ofList (entries : List (Family × α)) : FamilyTable α :=
  entries.foldl (fun table (family, value) => table.insert family value) empty

def get? (table : FamilyTable α) (family : Family) : Option α := table.entries.lookup family

/-- The families that have a value, in order. -/
def families (table : FamilyTable α) : List Family := table.entries.map Prod.fst

theorem lookup_entry (family other : Family) (value : α) (rest : List (Family × α)) :
    ((family, value) :: rest).lookup other =
      if other = family then some value else rest.lookup other := by
  rw [List.lookup_cons]
  split
  · rename_i h
    simp [eq_of_beq h]
  · rename_i h
    simp [ne_of_beq_false h]

theorem lookup_insertEntry (family other : Family) (value : α) (entries : List (Family × α)) :
    (insertEntry family value entries).lookup other =
      if other = family then some value else entries.lookup other := by
  induction entries with
  | nil => simp [insertEntry, lookup_entry]
  | cons head rest ih =>
    obtain ⟨f, v⟩ := head
    simp only [insertEntry]
    split
    · rw [lookup_entry]
    · split
      · rename_i hfamily
        subst hfamily
        by_cases h : other = family <;> simp [lookup_entry, h]
      · rename_i hne
        rw [lookup_entry, lookup_entry, ih]
        by_cases h : other = f
        · subst h
          simp [Ne.symm hne]
        · simp [h]

@[simp] theorem get?_empty (family : Family) : (empty : FamilyTable α).get? family = none := rfl

@[simp] theorem get?_insert (table : FamilyTable α) (family other : Family) (value : α) :
    (table.insert family value).get? other =
      if other = family then some value else table.get? other :=
  lookup_insertEntry family other value table.entries

end FamilyTable

/-- The families of a list in order, each once. -/
def Family.distinct (families : List Family) : List Family :=
  (FamilyTable.ofList (families.map fun family => (family, ()))).families

end SpecLint
