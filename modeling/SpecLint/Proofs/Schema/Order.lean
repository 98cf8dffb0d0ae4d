import Mathlib.Data.List.Lex
import SpecLint.Schema.Path

/-!
The order in which a walk meets the nodes of a schema. Under one node the properties come first, by
name, then the items, then the branches, by keyword and place, and last the additional properties.
A path comes before its extensions; two paths that part company are ordered by the step at which
they do. Both orders are strict. Main statements: `mem_children_iff`, by which the nodes below a
canonical node are exactly those that a single step reaches, and `pairwise_children`, by which they
are listed in order.
-/

namespace SpecLint.Schema

/-! ### The order of steps and paths -/

/-- The place of a keyword among the keywords of composition. -/
def Composition.place : Composition → Nat
  | .oneOf => 0
  | .anyOf => 1
  | .allOf => 2

namespace Segment

/-- The place of the kind of a step among the kinds of steps. -/
def rank : Segment → Nat
  | .property _ => 0
  | .items => 1
  | .branch _ _ => 2
  | .additionalProperties => 3

/-- One step is taken before another from the same node. -/
inductive Before : Segment → Segment → Prop
  | kind {a b : Segment} (h : a.rank < b.rank) : Before a b
  | name {a b : String} (h : a < b) : Before (.property a) (.property b)
  | keyword {k l : Composition} {i j : Nat} (h : k.place < l.place) :
      Before (.branch k i) (.branch l j)
  | index {k : Composition} {i j : Nat} (h : i < j) : Before (.branch k i) (.branch k j)

theorem before_irrefl (a : Segment) : ¬a.Before a := by
  intro h
  cases h with
  | kind h => exact Nat.lt_irrefl _ h
  | name h => exact String.lt_irrefl _ h
  | keyword h => exact Nat.lt_irrefl _ h
  | index h => exact Nat.lt_irrefl _ h

theorem Before.rank_le {a b : Segment} (h : a.Before b) : a.rank ≤ b.rank := by
  cases h with
  | kind h => exact Nat.le_of_lt h
  | name _ | keyword _ | index _ => exact Nat.le_refl _

theorem Before.trans {a b c : Segment} (hab : a.Before b) (hbc : b.Before c) : a.Before c := by
  -- A change of kind anywhere decides; otherwise all three steps are of one kind.
  cases hab with
  | kind h => exact .kind (Nat.lt_of_lt_of_le h hbc.rank_le)
  | name h =>
      cases hbc with
      | kind h' => exact .kind h'
      | name h' => exact .name (String.lt_trans h h')
  | keyword h =>
      cases hbc with
      | kind h' => exact .kind h'
      | keyword h' => exact .keyword (Nat.lt_trans h h')
      | index _ => exact .keyword h
  | index h =>
      cases hbc with
      | kind h' => exact .kind h'
      | keyword h' => exact .keyword h'
      | index h' => exact .index (Nat.lt_trans h h')

end Segment

namespace FieldPath

/-- The path continued by some steps. -/
def extend (path : FieldPath) (segments : List Segment) : FieldPath :=
  { path with segments := path.segments ++ segments }

@[simp] theorem extend_nil (path : FieldPath) : path.extend [] = path := by
  simp [extend]

@[simp] theorem extend_child (path : FieldPath) (segment : Segment) (segments : List Segment) :
    (path.child segment).extend segments = path.extend (segment :: segments) := by
  simp [extend, child]

@[simp] theorem parent_child (path : FieldPath) (segment : Segment) :
    (path.child segment).parent = path := by
  simp [parent, child]

/-- One path comes before another below the same label: it is cut short where the other goes on, or
takes the earlier step where they first differ. -/
def Before (a b : FieldPath) : Prop :=
  a.label = b.label ∧ List.Lex Segment.Before a.segments b.segments

theorem before_irrefl (path : FieldPath) : ¬path.Before path :=
  fun h => List.lex_irrefl Segment.before_irrefl _ h.2

theorem Before.trans {a b c : FieldPath} (hab : a.Before b) (hbc : b.Before c) : a.Before c :=
  ⟨hab.1.trans hbc.1, List.lex_trans Segment.Before.trans hab.2 hbc.2⟩

instance : Std.Irrefl Before := ⟨before_irrefl⟩

instance : Std.Antisymm Before :=
  ⟨fun path _ hab hba => absurd (hab.trans hba) path.before_irrefl⟩

theorem before_extend_cons (path : FieldPath) (segment : Segment) (segments : List Segment) :
    path.Before (path.extend (segment :: segments)) := by
  refine ⟨rfl, ?_⟩
  have h : List.Lex Segment.Before (path.segments ++ []) (path.segments ++ segment :: segments) :=
    List.Lex.append_left _ .nil _
  rwa [List.append_nil] at h

theorem extend_cons_before {path : FieldPath} {a b : Segment} (h : a.Before b)
    (as bs : List Segment) : (path.extend (a :: as)).Before (path.extend (b :: bs)) :=
  ⟨rfl, List.Lex.append_left _ (.rel h) _⟩

end FieldPath

/-- Elements of a list come in the order of their places. -/
theorem pairwise_zipIdx {α : Type} (xs : List α) (start : Nat) :
    (xs.zipIdx start).Pairwise fun a b => a.2 < b.2 := by
  rw [← List.pairwise_map (f := Prod.snd), List.zipIdx_map_snd]
  exact List.pairwise_lt_range'

/-! ### The nodes below a node

In a canonical node a name stands for one property only. This is what makes the list of children and
the single step two readings of the same thing: a repeated name would be listed twice, but reached
once. -/

namespace Node

/-- The keys of every object in the node strictly increase. -/
def Canonical (node : Node) : Prop := (Json.object node.keywords).Canonical

theorem canonical_of_ofJson? {value : Json} {node : Node} (hvalue : value.Canonical)
    (h : ofJson? value = some node) : node.Canonical := by
  rw [ofJson?_eq_some_iff] at h
  subst h
  exact hvalue

theorem canonical_of_get? {node : Node} {keyword : String} {value : Json}
    (hnode : node.Canonical) (h : node.get? keyword = some value) : value.Canonical :=
  Json.canonical_of_mem hnode (Members.mem_of_get? h)

theorem canonical_propertyTable {node : Node} (hnode : node.Canonical) :
    (Json.object node.propertyTable).Canonical := by
  unfold propertyTable
  cases h : (node.get? "properties").bind Json.members? with
  | none => exact ⟨.nil, trivial⟩
  | some members =>
      obtain ⟨value, hvalue, hmembers⟩ := Option.bind_eq_some_iff.1 h
      exact Json.canonical_of_members? (canonical_of_get? hnode hvalue) hmembers

theorem canonical_of_mem_branchList {node : Node} {kind : Composition} {value : Json}
    (hnode : node.Canonical) (h : value ∈ node.branchList kind) : value.Canonical := by
  unfold branchList at h
  cases hitems : (node.get? kind.keyword).bind Json.items? with
  | none => simp [hitems] at h
  | some items =>
      obtain ⟨list, hlist, hlistItems⟩ := Option.bind_eq_some_iff.1 hitems
      have hcanonical := canonical_of_get? hnode hlist
      cases list <;> cases hlistItems
      rw [hitems, Option.getD_some] at h
      exact Json.canonicalItems_iff.1 hcanonical value h

theorem mem_properties_iff {node child : Node} {name : String} (hnode : node.Canonical) :
    (name, child) ∈ node.properties ↔ node.property? name = some child := by
  have hsorted := (canonical_propertyTable hnode).1
  simp only [properties, property?, List.mem_filterMap, Option.map_eq_some_iff, Prod.mk.injEq,
    Prod.exists, Option.bind_eq_some_iff]
  constructor
  · rintro ⟨_, value, hmem, _, hchild, rfl, rfl⟩
    exact ⟨value, Members.get?_of_mem hsorted hmem, hchild⟩
  · rintro ⟨value, hget, hchild⟩
    exact ⟨name, value, Members.mem_of_get? hget, child, hchild, rfl, rfl⟩

theorem mem_branches_iff {node child : Node} {kind : Composition} {index : Nat} :
    (kind, index, child) ∈ node.branches ↔ node.branch? kind index = some child := by
  have hkind : kind ∈ Composition.all := by cases kind <;> simp [Composition.all]
  simp only [branches, branch?, List.mem_flatMap, List.mem_filterMap, Option.map_eq_some_iff,
    Prod.mk.injEq, Prod.exists, Option.bind_eq_some_iff, List.mk_mem_zipIdx_iff_getElem?]
  constructor
  · rintro ⟨_, -, value, _, hvalue, _, hchild, rfl, rfl, rfl⟩
    exact ⟨value, hvalue, hchild⟩
  · rintro ⟨value, hvalue, hchild⟩
    exact ⟨kind, hkind, value, index, hvalue, child, hchild, rfl, rfl, rfl⟩

/-- The nodes below a node are those that one step reaches. -/
theorem mem_children_iff {node child : Node} {segment : Segment} (hnode : node.Canonical) :
    (segment, child) ∈ node.children ↔ node.child? segment = some child := by
  simp only [children, List.mem_append, List.mem_map, Prod.mk.injEq, Prod.exists,
    Option.mem_toList]
  cases segment with
  | property name => simp [child?, mem_properties_iff hnode]
  | items => simp [child?]
  | branch kind index => simp [child?, mem_branches_iff]
  | additionalProperties => simp [child?]

/-- A single step stays among canonical nodes. -/
theorem canonical_of_child? {node child : Node} {segment : Segment} (hnode : node.Canonical)
    (h : node.child? segment = some child) : child.Canonical := by
  cases segment with
  | property name =>
      obtain ⟨value, hvalue, hchild⟩ := Option.bind_eq_some_iff.1 h
      have hmem := Members.mem_of_get? hvalue
      exact canonical_of_ofJson? (Json.canonical_of_mem (canonical_propertyTable hnode) hmem) hchild
  | branch kind index =>
      obtain ⟨value, hvalue, hchild⟩ := Option.bind_eq_some_iff.1 h
      have hmem := List.mem_of_getElem? hvalue
      exact canonical_of_ofJson? (canonical_of_mem_branchList hnode hmem) hchild
  | items | additionalProperties =>
      obtain ⟨value, hvalue, hchild⟩ := Option.bind_eq_some_iff.1 h
      exact canonical_of_ofJson? (canonical_of_get? hnode hvalue) hchild

theorem pairwise_properties {node : Node} (hnode : node.Canonical) :
    node.properties.Pairwise fun a b => a.1 < b.1 := by
  refine List.Pairwise.filterMap _ ?_ (canonical_propertyTable hnode).1
  rintro ⟨_, _⟩ ⟨_, _⟩ hlt a ha b hb
  obtain ⟨_, -, rfl⟩ := Option.map_eq_some_iff.1 ha
  obtain ⟨_, -, rfl⟩ := Option.map_eq_some_iff.1 hb
  exact hlt

/-- The step to a branch. -/
def branchStep (branch : Composition × Nat × Node) : Segment := .branch branch.1 branch.2.1

theorem pairwise_branches (node : Node) :
    node.branches.Pairwise fun a b => (branchStep a).Before (branchStep b) := by
  refine List.pairwise_flatMap.2 ⟨fun kind _ => ?_, ?_⟩
  · -- Under one keyword the places increase, and skipping what is no node keeps them as they are.
    refine List.Pairwise.filterMap _ ?_ (pairwise_zipIdx _ 0)
    rintro ⟨_, i⟩ ⟨_, j⟩ hlt a ha b hb
    obtain ⟨_, -, rfl⟩ := Option.map_eq_some_iff.1 ha
    obtain ⟨_, -, rfl⟩ := Option.map_eq_some_iff.1 hb
    exact .index hlt
  · have hplaces : Composition.all.Pairwise fun k l => k.place < l.place := by decide
    refine hplaces.imp ?_
    intro k l hlt a ha b hb
    obtain ⟨_, -, ha⟩ := List.mem_filterMap.1 ha
    obtain ⟨_, -, hb⟩ := List.mem_filterMap.1 hb
    obtain ⟨_, -, rfl⟩ := Option.map_eq_some_iff.1 ha
    obtain ⟨_, -, rfl⟩ := Option.map_eq_some_iff.1 hb
    exact .keyword hlt

/-- Steps of kinds up to one bound come before steps of kinds beyond it. -/
theorem pairwise_append_of_rank {xs ys : List (Segment × Node)} (bound : Nat)
    (hxs : xs.Pairwise fun a b => a.1.Before b.1) (hys : ys.Pairwise fun a b => a.1.Before b.1)
    (hle : ∀ a ∈ xs, a.1.rank ≤ bound) (hlt : ∀ b ∈ ys, bound < b.1.rank) :
    (xs ++ ys).Pairwise fun a b => a.1.Before b.1 := by
  refine List.pairwise_append.2 ⟨hxs, hys, ?_⟩
  intro a ha b hb
  exact .kind (Nat.lt_of_le_of_lt (hle a ha) (hlt b hb))

/-- The nodes below a node are listed in the order of the steps to them. -/
theorem pairwise_children {node : Node} (hnode : node.Canonical) :
    node.children.Pairwise fun a b => a.1.Before b.1 := by
  have hproperties : (node.properties.map fun step => (Segment.property step.1, step.2)).Pairwise
      fun a b => a.1.Before b.1 :=
    List.pairwise_map.2 ((pairwise_properties hnode).imp fun h => .name h)
  have hitems : (node.items?.toList.map fun child => (Segment.items, child)).Pairwise
      fun a b => a.1.Before b.1 := by
    cases node.items? <;> simp
  have hbranches : (node.branches.map fun step => (branchStep step, step.2.2)).Pairwise
      fun a b => a.1.Before b.1 :=
    List.pairwise_map.2 (pairwise_branches node)
  have hadditional :
      (node.additionalProperties?.toList.map fun child =>
        (Segment.additionalProperties, child)).Pairwise fun a b => a.1.Before b.1 := by
    cases node.additionalProperties? <;> simp
  refine pairwise_append_of_rank 2 (pairwise_append_of_rank 1
    (pairwise_append_of_rank 0 hproperties hitems ?_ ?_) hbranches ?_ ?_) hadditional ?_ ?_
  all_goals
    simp only [List.mem_append, List.mem_map]
    intro step hstep
  · obtain ⟨_, -, rfl⟩ := hstep
    exact Nat.le_refl 0
  · obtain ⟨_, -, rfl⟩ := hstep
    exact Nat.zero_lt_one
  · rcases hstep with ⟨_, -, rfl⟩ | ⟨_, -, rfl⟩ <;> simp [Segment.rank]
  · obtain ⟨_, -, rfl⟩ := hstep
    exact Nat.one_lt_two
  · rcases hstep with (⟨_, -, rfl⟩ | ⟨_, -, rfl⟩) | ⟨_, -, rfl⟩ <;> simp [Segment.rank]
  · obtain ⟨_, -, rfl⟩ := hstep
    exact Nat.lt_add_one 2

end Node

end SpecLint.Schema
