import SpecLint.Json.Basic

/-!
The canonical form of JSON values: at every depth the keys of an object strictly increase. Main
statement: `canonical_canonicalize`; with `get?_of_mem` an entry of a canonical object is what
looking up its key yields. What is under a key after members were put in is told by `get?_insert`
and `get?_ofList`.
-/

namespace SpecLint

namespace Members

def Sorted (members : Members) : Prop :=
  members.Pairwise fun a b => a.1 < b.1

instance (members : Members) : Decidable members.Sorted :=
  inferInstanceAs (Decidable (List.Pairwise _ _))

theorem get?_cons (key other : String) (value : Json) (members : Members) :
    get? ((key, value) :: members) other =
      if other = key then some value else members.get? other := by
  rw [get?, List.lookup_cons]
  by_cases h : other = key
  · simp [h]
  · rw [beq_eq_false_iff_ne.2 h, if_neg h]
    rfl

theorem mem_insert {key : String} {value : Json} {members : Members} {entry : String × Json}
    (h : entry ∈ insert key value members) : entry = (key, value) ∨ entry ∈ members := by
  induction members with
  | nil => simpa [insert] using h
  | cons head rest ih =>
    obtain ⟨k, v⟩ := head
    simp only [insert] at h
    split at h
    · simpa using h
    · split at h
      · rcases List.mem_cons.1 h with h | h
        · exact Or.inl h
        · exact Or.inr (List.mem_cons_of_mem _ h)
      · rcases List.mem_cons.1 h with h | h
        · exact Or.inr (h ▸ List.mem_cons_self)
        · rcases ih h with h | h
          · exact Or.inl h
          · exact Or.inr (List.mem_cons_of_mem _ h)

theorem Sorted.insert {members : Members} (h : members.Sorted) (key : String) (value : Json) :
    (members.insert key value).Sorted := by
  induction members with
  | nil => simp [Members.insert, Sorted]
  | cons head rest ih =>
    obtain ⟨k, v⟩ := head
    have hrest : Sorted rest := (List.pairwise_cons.1 h).2
    have hhead := (List.pairwise_cons.1 h).1
    simp only [Members.insert]
    split
    · rename_i hlt
      refine List.pairwise_cons.2 ⟨?_, h⟩
      intro entry hentry
      rcases List.mem_cons.1 hentry with rfl | hentry
      · exact hlt
      · exact String.lt_trans hlt (hhead entry hentry)
    · split
      · rename_i hkey
        subst hkey
        exact List.pairwise_cons.2 ⟨hhead, hrest⟩
      · rename_i hnlt hne
        refine List.pairwise_cons.2 ⟨?_, ih hrest⟩
        intro entry hentry
        rcases mem_insert hentry with rfl | hentry
        · rcases Std.lt_trichotomy k key with h | h | h
          · exact h
          · exact absurd h.symm hne
          · exact absurd h hnlt
        · exact hhead entry hentry

theorem sorted_foldl_insert (pairs : List (String × Json)) (members : Members)
    (h : members.Sorted) :
    (pairs.foldl (fun members (p : String × Json) => members.insert p.1 p.2) members).Sorted := by
  induction pairs generalizing members with
  | nil => exact h
  | cons p pairs ih => exact ih _ (h.insert p.1 p.2)

theorem sorted_ofList (pairs : List (String × Json)) : (ofList pairs).Sorted :=
  sorted_foldl_insert pairs [] List.Pairwise.nil

theorem mem_foldl_insert {entry : String × Json} (pairs : List (String × Json))
    (members : Members)
    (h : entry ∈ pairs.foldl (fun members (p : String × Json) => members.insert p.1 p.2) members) :
    entry ∈ pairs ∨ entry ∈ members := by
  induction pairs generalizing members with
  | nil => exact Or.inr h
  | cons p pairs ih =>
    rcases ih _ h with h | h
    · exact Or.inl (List.mem_cons_of_mem _ h)
    · rcases mem_insert h with rfl | h
      · exact Or.inl List.mem_cons_self
      · exact Or.inr h

theorem mem_of_mem_ofList {entry : String × Json} {pairs : List (String × Json)}
    (h : entry ∈ ofList pairs) : entry ∈ pairs := by
  rcases mem_foldl_insert pairs [] h with h | h
  · exact h
  · cases h

/-- Looking up the key of an entry of sorted members yields its value. -/
theorem get?_of_mem {members : Members} (hs : members.Sorted) {key : String} {value : Json}
    (h : (key, value) ∈ members) : members.get? key = some value := by
  induction members with
  | nil => cases h
  | cons head rest ih =>
    obtain ⟨k, v⟩ := head
    obtain ⟨hhead, hrest⟩ := List.pairwise_cons.1 hs
    rw [get?_cons]
    rcases List.mem_cons.1 h with h | h
    · cases h
      exact if_pos rfl
    · have hlt : k < key := hhead _ h
      have hne : key ≠ k := by
        rintro rfl
        exact String.lt_irrefl _ hlt
      rw [if_neg hne, ih hrest h]

theorem mem_of_get? {members : Members} {key : String} {value : Json}
    (h : members.get? key = some value) : (key, value) ∈ members := by
  induction members with
  | nil => cases h
  | cons head rest ih =>
    obtain ⟨k, v⟩ := head
    rw [get?_cons] at h
    split at h
    · rename_i heq
      cases h
      rw [heq]
      exact List.mem_cons_self
    · exact List.mem_cons_of_mem _ (ih h)

theorem get?_erase_of_ne {members : Members} {key other : String} (h : other ≠ key) :
    (members.erase key).get? other = members.get? other := by
  induction members with
  | nil => rfl
  | cons head rest ih =>
    obtain ⟨k, v⟩ := head
    rw [get?_cons, ← ih]
    by_cases hk : k = key
    · have hhead : erase key ((k, v) :: rest) = erase key rest := by simp [erase, hk]
      rw [hhead, if_neg (hk ▸ h)]
    · have hhead : erase key ((k, v) :: rest) = (k, v) :: erase key rest := by simp [erase, hk]
      rw [hhead, get?_cons]

theorem get?_insert (members : Members) (key other : String) (value : Json) :
    (members.insert key value).get? other =
      if other = key then some value else members.get? other := by
  induction members with
  | nil => rw [insert, get?_cons]
  | cons head rest ih =>
      obtain ⟨k, v⟩ := head
      rw [insert]
      split
      · rw [get?_cons]
      · split
        · rename_i hkey
          subst hkey
          rw [get?_cons, get?_cons]
          split <;> rfl
        · rename_i hne
          rw [get?_cons, get?_cons, ih]
          by_cases hother : other = k
          · subst hother
            simp [Ne.symm hne]
          · simp [hother]

theorem get?_foldl_insert {pairs : List (String × Json)} (hpairs : (pairs.map Prod.fst).Nodup)
    (members : Members) (key : String) :
    (pairs.foldl (fun members (p : String × Json) => members.insert p.1 p.2) members).get? key =
      (get? pairs key).or (members.get? key) := by
  induction pairs generalizing members with
  | nil => rfl
  | cons pair pairs ih =>
      obtain ⟨k, v⟩ := pair
      obtain ⟨hnew, hrest⟩ := List.nodup_cons.1 hpairs
      rw [List.foldl_cons, ih hrest, get?_insert, get?_cons]
      by_cases hkey : key = k
      · subst hkey
        have hnone : get? pairs key = none := by
          cases hget : get? pairs key with
          | none => rfl
          | some value => exact absurd (List.mem_map_of_mem (mem_of_get? hget)) hnew
        simp [hnone]
      · simp [hkey]

/-- Where no key is written twice, every value stands under the key with which it was written. -/
theorem get?_ofList {pairs : List (String × Json)} (hpairs : (pairs.map Prod.fst).Nodup)
    (key : String) : (ofList pairs).get? key = get? pairs key := by
  have hfold := get?_foldl_insert hpairs [] key
  rw [show get? [] key = none from rfl, Option.or_none] at hfold
  exact hfold

end Members

namespace Json

mutual

/-- The keys of every object in the value strictly increase. -/
def Canonical : Json → Prop
  | .array items => CanonicalItems items
  | .object members => Members.Sorted members ∧ CanonicalMembers members
  | .null | .boolean _ | .number _ | .string _ => True

def CanonicalItems : List Json → Prop
  | [] => True
  | item :: rest => Canonical item ∧ CanonicalItems rest

/-- Every value of a member is canonical. -/
def CanonicalMembers : List (String × Json) → Prop
  | [] => True
  | (_, value) :: rest => Canonical value ∧ CanonicalMembers rest

end

theorem canonicalItems_iff {items : List Json} :
    CanonicalItems items ↔ ∀ item ∈ items, Canonical item := by
  induction items with
  | nil => simp [CanonicalItems]
  | cons item rest ih => simp [CanonicalItems, ih]

theorem canonicalMembers_iff {members : List (String × Json)} :
    CanonicalMembers members ↔ ∀ entry ∈ members, Canonical entry.2 := by
  induction members with
  | nil => simp [CanonicalMembers]
  | cons entry rest ih => simp [CanonicalMembers, ih]

theorem canonical_of_mem {members : Members} {key : String} {value : Json}
    (hmembers : (Json.object members).Canonical) (h : (key, value) ∈ members) :
    value.Canonical :=
  canonicalMembers_iff.1 hmembers.2 (key, value) h

theorem canonical_insert {members : Members} {value : Json} (key : String)
    (hmembers : (Json.object members).Canonical) (hvalue : value.Canonical) :
    (Json.object (members.insert key value)).Canonical := by
  refine ⟨hmembers.1.insert key value, canonicalMembers_iff.2 fun entry hentry => ?_⟩
  rcases Members.mem_insert hentry with rfl | hentry
  · exact hvalue
  · exact canonicalMembers_iff.1 hmembers.2 entry hentry

theorem canonical_of_members? {value : Json} {members : Members} (hvalue : value.Canonical)
    (h : value.members? = some members) : (Json.object members).Canonical := by
  cases value <;> cases h
  exact hvalue

theorem canonical_of_get? {value found : Json} {key : String} (hvalue : value.Canonical)
    (h : value.get? key = some found) : found.Canonical := by
  obtain ⟨members, hmembers, hget⟩ := Option.bind_eq_some_iff.1 h
  exact canonical_of_mem (canonical_of_members? hvalue hmembers) (Members.mem_of_get? hget)

mutual

/-- The value with the members of every object in order; of two with one key the later stays. -/
def canonicalize : Json → Json
  | .array items => .array (canonicalizeItems items)
  | .object members => .object (Members.ofList (canonicalizeMembers members))
  | .null => .null
  | .boolean value => .boolean value
  | .number value => .number value
  | .string text => .string text

def canonicalizeItems : List Json → List Json
  | [] => []
  | item :: rest => canonicalize item :: canonicalizeItems rest

/-- The members with their values in canonical form. -/
def canonicalizeMembers : List (String × Json) → List (String × Json)
  | [] => []
  | (key, value) :: rest => (key, canonicalize value) :: canonicalizeMembers rest

end

mutual

theorem canonical_canonicalize : (value : Json) → value.canonicalize.Canonical
  | .array items => by
    simpa [canonicalize, Canonical] using canonicalItems_canonicalizeItems items
  | .object members => by
    simp only [canonicalize, Canonical]
    refine ⟨Members.sorted_ofList _, canonicalMembers_iff.2 ?_⟩
    intro entry h
    exact canonicalMembers_iff.1 (canonicalMembers_canonicalizeMembers members) entry
      (Members.mem_of_mem_ofList h)
  | .null => trivial
  | .boolean _ => trivial
  | .number _ => trivial
  | .string _ => trivial

theorem canonicalItems_canonicalizeItems :
    (items : List Json) → CanonicalItems (canonicalizeItems items)
  | [] => trivial
  | item :: rest => ⟨canonical_canonicalize item, canonicalItems_canonicalizeItems rest⟩

theorem canonicalMembers_canonicalizeMembers :
    (members : List (String × Json)) → CanonicalMembers (canonicalizeMembers members)
  | [] => trivial
  | (_, value) :: rest => ⟨canonical_canonicalize value, canonicalMembers_canonicalizeMembers rest⟩

end

end Json

end SpecLint
