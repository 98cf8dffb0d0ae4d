import Mathlib.Data.List.Dedup
import SpecLint.Json.Canonical

/-!
Members that are put in one after the other. Under each key is what was put in last under it, and
that determines the members (`holdLast_iff`). All that were put in are still there if and only if no
key was put in twice (`length_ofList_eq_iff`).
-/

namespace SpecLint.Members

variable {members pairs : Members} {key : String} {value : Json}

theorem mem_keys_iff : key ∈ members.keys ↔ (members.get? key).isSome = true := by
  induction members with
  | nil => simp [keys, get?]
  | cons head rest ih =>
      obtain ⟨k, v⟩ := head
      rw [get?_cons]
      by_cases h : key = k
      · simp [keys, h]
      · rw [if_neg h, ← ih]
        simp [keys, h]

theorem notMem_keys_iff : key ∉ members.keys ↔ members.get? key = none := by
  rw [mem_keys_iff, Bool.not_eq_true, Option.isSome_eq_false_iff, Option.isNone_iff_eq_none]

theorem get?_foldl_insert_eq_reverse (pairs members : Members) (key : String) :
    (pairs.foldl (fun members (p : String × Json) => members.insert p.1 p.2) members).get? key =
      (get? pairs.reverse key).or (members.get? key) := by
  induction pairs generalizing members with
  | nil => rfl
  | cons pair pairs ih =>
      obtain ⟨k, v⟩ := pair
      have hreverse : get? ((k, v) :: pairs).reverse key =
          (get? pairs.reverse key).or (if key = k then some v else none) := by
        rw [List.reverse_cons, get?, List.lookup_append]
        exact congrArg _ (get?_cons k key v [])
      rw [List.foldl_cons, ih, hreverse, get?_insert, Option.or_assoc]
      split <;> rfl

/-- What is found under a key is what was put in last under it. -/
theorem get?_ofList_eq_reverse (pairs : Members) (key : String) :
    (ofList pairs).get? key = get? pairs.reverse key := by
  rw [ofList, get?_foldl_insert_eq_reverse]
  exact Option.or_none

theorem mem_keys_ofList_iff : key ∈ (ofList pairs).keys ↔ key ∈ pairs.keys := by
  rw [mem_keys_iff, get?_ofList_eq_reverse, ← mem_keys_iff, keys, List.map_reverse,
    List.mem_reverse]
  rfl

theorem get?_ofList_append_cons {earlier later : Members} (h : key ∉ later.keys) :
    (ofList (earlier ++ (key, value) :: later)).get? key = some value := by
  have hlater : key ∉ Members.keys later.reverse := by
    rw [keys, List.map_reverse, List.mem_reverse]
    exact h
  rw [get?_ofList_eq_reverse, List.reverse_append, List.reverse_cons, List.append_assoc, get?,
    List.lookup_append]
  change (get? later.reverse key).or (get? ((key, value) :: earlier.reverse) key) = some value
  rw [notMem_keys_iff.1 hlater, Option.none_or, get?_cons, if_pos rfl]

theorem Sorted.nodup_keys (h : members.Sorted) : members.keys.Nodup := by
  refine List.pairwise_map.2 (h.imp fun {a b} hlt heq => ?_)
  rw [heq] at hlt
  exact String.lt_irrefl _ hlt

/-- What is found under each key determines sorted members. -/
theorem Sorted.ext {other : Members} (h : members.Sorted) (hother : other.Sorted)
    (hget : ∀ key, members.get? key = other.get? key) : members = other := by
  refine List.Perm.eq_of_pairwise (fun a b _ _ hab hba => absurd hba (String.lt_asymm hab))
    h hother ?_
  refine (List.perm_ext_iff_of_nodup (h.nodup_keys.of_map _) (hother.nodup_keys.of_map _)).2 ?_
  rintro ⟨key, value⟩
  constructor
  · intro hmem
    exact mem_of_get? ((hget key).symm.trans (get?_of_mem h hmem))
  · intro hmem
    exact mem_of_get? ((hget key).trans (get?_of_mem hother hmem))

theorem exists_last_of_mem_keys (h : key ∈ pairs.keys) :
    ∃ earlier value later, pairs = earlier ++ (key, value) :: later ∧ key ∉ Members.keys later := by
  induction pairs with
  | nil => cases h
  | cons head rest ih =>
      by_cases hrest : key ∈ Members.keys rest
      · obtain ⟨earlier, value, later, rfl, hlater⟩ := ih hrest
        exact ⟨head :: earlier, value, later, rfl, hlater⟩
      · rcases List.mem_cons.1 h with rfl | hmem
        · exact ⟨[], head.2, rest, rfl, hrest⟩
        · exact absurd hmem hrest

/-- The members have each key of the pairs once, in order, with the last value under it. -/
structure HoldLast (pairs members : Members) : Prop where
  sorted : members.Sorted
  keys_iff : ∀ key, key ∈ members.keys ↔ key ∈ pairs.keys
  get?_eq : ∀ earlier key value later, pairs = earlier ++ (key, value) :: later →
    key ∉ Members.keys later → members.get? key = some value

theorem holdLast_ofList (pairs : Members) : HoldLast pairs (ofList pairs) where
  sorted := sorted_ofList pairs
  keys_iff _ := mem_keys_ofList_iff
  get?_eq := by
    rintro earlier key value later rfl hlater
    exact get?_ofList_append_cons hlater

theorem holdLast_iff : HoldLast pairs members ↔ members = ofList pairs := by
  constructor
  · intro h
    have hlast := holdLast_ofList pairs
    refine h.sorted.ext hlast.sorted fun key => ?_
    by_cases hkey : key ∈ pairs.keys
    · obtain ⟨earlier, value, later, hpairs, hlater⟩ := exists_last_of_mem_keys hkey
      rw [h.get?_eq _ _ _ _ hpairs hlater, hlast.get?_eq _ _ _ _ hpairs hlater]
    · rw [notMem_keys_iff.1 (mt (h.keys_iff key).1 hkey),
        notMem_keys_iff.1 (mt (hlast.keys_iff key).1 hkey)]
  · rintro rfl
    exact holdLast_ofList pairs

/-! ### How many members there are -/

/-- There are as many members as there are different keys. -/
theorem length_ofList (pairs : Members) : (ofList pairs).length = pairs.keys.dedup.length := by
  have hperm : (ofList pairs).keys.Perm pairs.keys.dedup := by
    refine (List.perm_ext_iff_of_nodup (sorted_ofList pairs).nodup_keys (List.nodup_dedup _)).2 ?_
    intro key
    rw [mem_keys_ofList_iff, List.mem_dedup]
  have hlength := hperm.length_eq
  rwa [keys, List.length_map] at hlength

theorem length_ofList_le (pairs : Members) : (ofList pairs).length ≤ pairs.length := by
  have hle := (List.dedup_sublist pairs.keys).length_le
  rwa [← length_ofList, keys, List.length_map] at hle

theorem length_ofList_eq_iff : (ofList pairs).length = pairs.length ↔ pairs.keys.Nodup := by
  have hlength : pairs.keys.length = pairs.length := List.length_map _
  rw [length_ofList, ← hlength]
  constructor
  · intro heq
    rw [← (List.dedup_sublist pairs.keys).eq_of_length heq]
    exact List.nodup_dedup _
  · intro hnodup
    rw [hnodup.dedup]

end SpecLint.Members
