import SpecLint.Proofs.Schema.Order
import SpecLint.Schema.Walk

/-!
What a walk finds. The walk has one path, which every step extends and every return cuts back, and
one list of finds. `descend_eq` says that a descent leaves its path as it found it and adds the
flagged ones among its visits, so that the walk is a question about `visits`. These are the nodes
that steps lead to, each once and in the order of paths (`mem_visits_iff`, `pairwise_visits`).
-/

namespace SpecLint.Schema

/-- What holds of a node when it holds of all nodes below it holds of every node. -/
theorem Node.descent {motive : Node → Prop}
    (step : ∀ node, (∀ segment child, (segment, child) ∈ node.children → motive child) →
      motive node)
    (node : Node) : motive node :=
  step node fun _ child h =>
    have : child.size < node.size := Node.size_lt_of_mem_children h
    Node.descent step child
termination_by node.size

/-! ### The walk as a list of visits -/

theorem visits_eq (node : Node) (path : FieldPath) :
    visits node path =
      (node, path) :: node.children.flatMap fun step => visits step.2 (path.child step.1) := by
  rw [visits]
  congr 1
  rw [List.flatMap_subtype (g := fun step => visits step.2 (path.child step.1)) (fun _ _ => rfl),
    List.unattach_attach]

theorem descend_eq_foldl (flagged : Node → FieldPath → Bool) (node : Node) (trail : Trail) :
    descend flagged node trail =
      node.children.foldl (fun trail step => (descend flagged step.2 (trail.enter step.1)).leave)
        (trail.note (flagged node trail.path)) := by
  rw [descend, List.foldl_subtype
    (g := fun trail step => (descend flagged step.2 (trail.enter step.1)).leave)
    (fun _ _ _ => rfl), List.unattach_attach]

/-- The paths of the visits for which `flagged` holds. -/
def flaggedPaths (flagged : Node → FieldPath → Bool) (seen : List (Node × FieldPath)) :
    List FieldPath :=
  (seen.filter fun visit => flagged visit.1 visit.2).map Prod.snd

theorem flaggedPaths_append (flagged : Node → FieldPath → Bool)
    (first more : List (Node × FieldPath)) :
    flaggedPaths flagged (first ++ more) =
      flaggedPaths flagged first ++ flaggedPaths flagged more := by
  simp [flaggedPaths]

namespace Trail

/-- The trail with more paths found. -/
def gain (trail : Trail) (paths : List FieldPath) : Trail :=
  { trail with found := trail.found ++ paths }

@[simp] theorem gain_path (trail : Trail) (paths : List FieldPath) :
    (trail.gain paths).path = trail.path := rfl

@[simp] theorem gain_gain (trail : Trail) (first more : List FieldPath) :
    (trail.gain first).gain more = trail.gain (first ++ more) := by
  have h : trail.found ++ first ++ more = trail.found ++ (first ++ more) :=
    Array.ext' (by simp)
  simp only [gain, h]

@[simp] theorem gain_nil (trail : Trail) : trail.gain [] = trail := by
  simp [gain]

/-- What is found one step down is found where the step was taken. -/
theorem leave_gain_enter (trail : Trail) (segment : Segment) (paths : List FieldPath) :
    ((trail.enter segment).gain paths).leave = trail.gain paths := by
  simp [enter, gain, leave]

theorem note_eq (trail : Trail) (flagged : Node → FieldPath → Bool) (node : Node) :
    trail.note (flagged node trail.path) =
      trail.gain (flaggedPaths flagged [(node, trail.path)]) := by
  cases h : flagged node trail.path <;> simp [note, gain, flaggedPaths, h]

end Trail

/-- The steps of a loop all start at one path, so that what they find simply adds up. -/
theorem foldl_descend_eq {flagged : Node → FieldPath → Bool} {steps : List (Segment × Node)}
    (h : ∀ step ∈ steps, ∀ trail, descend flagged step.2 trail =
      trail.gain (flaggedPaths flagged (visits step.2 trail.path)))
    (trail : Trail) :
    steps.foldl (fun trail step => (descend flagged step.2 (trail.enter step.1)).leave) trail =
      trail.gain (flaggedPaths flagged
        (steps.flatMap fun step => visits step.2 (trail.path.child step.1))) := by
  -- The trail varies: a step starts with what the steps before it found.
  induction steps generalizing trail with
  | nil => simp [flaggedPaths]
  | cons step steps ih =>
      obtain ⟨hstep, hsteps⟩ := List.forall_mem_cons.1 h
      rw [List.foldl_cons, hstep, Trail.leave_gain_enter, ih hsteps, Trail.gain_gain]
      simp [flaggedPaths, Trail.enter]

/-- A descent comes back to the path at which it started, with the flagged paths of its visits. -/
theorem descend_eq (flagged : Node → FieldPath → Bool) (node : Node) (trail : Trail) :
    descend flagged node trail = trail.gain (flaggedPaths flagged (visits node trail.path)) := by
  induction node using Node.descent generalizing trail with
  | step node ih =>
      have hsteps : ∀ step ∈ node.children, ∀ trail, descend flagged step.2 trail =
          trail.gain (flaggedPaths flagged (visits step.2 trail.path)) :=
        fun step hstep => ih step.1 step.2 hstep
      have hvisits : flaggedPaths flagged (visits node trail.path) =
          flaggedPaths flagged [(node, trail.path)] ++ flaggedPaths flagged
            (node.children.flatMap fun step => visits step.2 (trail.path.child step.1)) := by
        rw [visits_eq, ← flaggedPaths_append, List.singleton_append]
      rw [descend_eq_foldl, Trail.note_eq, foldl_descend_eq hsteps, Trail.gain_gain, hvisits]
      rfl

theorem walk_eq (value : Json) (start : FieldPath) (flagged : Node → FieldPath → Bool) :
    walk value start flagged =
      match Node.ofJson? value with
      | none => []
      | some node => flaggedPaths flagged (visits node start) := by
  unfold walk
  cases Node.ofJson? value with
  | none => rfl
  | some node => simp [descend_eq, Trail.gain]

/-! ### The visits as the nodes that steps lead to -/

/-- Every visit is made on the way that leads to its node, and every node that steps lead to is
visited. -/
theorem mem_visits_iff {node found : Node} {path place : FieldPath} (hnode : node.Canonical) :
    (found, place) ∈ visits node path ↔
      ∃ segments, place = path.extend segments ∧ FieldPath.follow segments node = some found := by
  induction node using Node.descent generalizing path with
  | step node ih =>
      rw [visits_eq]
      simp only [List.mem_cons, Prod.mk.injEq, List.mem_flatMap, Prod.exists]
      -- The node itself is reached by no steps, everything below it by way of one of its children.
      constructor
      · rintro (⟨rfl, rfl⟩ | ⟨segment, child, hstep, hfound⟩)
        · exact ⟨[], by simp, rfl⟩
        · have hchild := (Node.mem_children_iff hnode).1 hstep
          obtain ⟨segments, rfl, hfollow⟩ :=
            (ih segment child hstep (Node.canonical_of_child? hnode hchild)).1 hfound
          exact ⟨segment :: segments, by simp, by simp [FieldPath.follow, hchild, hfollow]⟩
      · rintro ⟨_ | ⟨segment, segments⟩, rfl, hfollow⟩
        · cases hfollow
          exact Or.inl ⟨rfl, by simp⟩
        · obtain ⟨child, hchild, hfollow⟩ := Option.bind_eq_some_iff.1 hfollow
          have hstep := (Node.mem_children_iff hnode).2 hchild
          refine Or.inr ⟨segment, child, hstep, ?_⟩
          exact (ih segment child hstep (Node.canonical_of_child? hnode hchild)).2
            ⟨segments, by simp, hfollow⟩

/-- The visits are made in the order of their paths. -/
theorem pairwise_visits {node : Node} (hnode : node.Canonical) (path : FieldPath) :
    (visits node path).Pairwise fun a b => a.2.Before b.2 := by
  induction node using Node.descent generalizing path with
  | step node ih =>
      have hcanonical : ∀ step ∈ node.children, step.2.Canonical := fun step hstep =>
        Node.canonical_of_child? hnode ((Node.mem_children_iff hnode).1 hstep)
      -- A visit below a step has a path that goes on from that step.
      have hplace : ∀ step ∈ node.children, ∀ visit ∈ visits step.2 (path.child step.1),
          ∃ segments, visit.2 = path.extend (step.1 :: segments) := by
        intro step hstep visit hvisit
        obtain ⟨segments, hsegments, -⟩ := (mem_visits_iff (hcanonical step hstep)).1 hvisit
        exact ⟨segments, by rw [hsegments, FieldPath.extend_child]⟩
      rw [visits_eq, List.pairwise_cons, List.pairwise_flatMap]
      refine ⟨?_, ?_, ?_⟩
      · intro visit hvisit
        obtain ⟨step, hstep, hvisit⟩ := List.mem_flatMap.1 hvisit
        obtain ⟨segments, hsegments⟩ := hplace step hstep visit hvisit
        rw [hsegments]
        exact path.before_extend_cons step.1 segments
      · intro step hstep
        exact ih step.1 step.2 hstep (hcanonical step hstep) _
      · refine (Node.pairwise_children hnode).imp_of_mem ?_
        intro a b ha hb hbefore visit hvisit visit' hvisit'
        obtain ⟨as, has⟩ := hplace a ha visit hvisit
        obtain ⟨bs, hbs⟩ := hplace b hb visit' hvisit'
        rw [has, hbs]
        exact FieldPath.extend_cons_before hbefore as bs

theorem mem_flaggedPaths_iff {flagged : Node → FieldPath → Bool} {seen : List (Node × FieldPath)}
    {path : FieldPath} :
    path ∈ flaggedPaths flagged seen ↔ ∃ node, (node, path) ∈ seen ∧ flagged node path = true := by
  simp [flaggedPaths]

theorem flaggedPaths_congr {flagged other : Node → FieldPath → Bool}
    {seen : List (Node × FieldPath)}
    (h : ∀ node path, (node, path) ∈ seen → other node path = flagged node path) :
    flaggedPaths other seen = flaggedPaths flagged seen := by
  unfold flaggedPaths
  congr 1
  exact List.filter_congr fun visit hvisit => h visit.1 visit.2 hvisit

/-- A walk finds the flagged nodes among those that steps lead to. -/
theorem mem_walk_iff {value : Json} (hvalue : value.Canonical) {start path : FieldPath}
    {flagged : Node → FieldPath → Bool} :
    path ∈ walk value start flagged ↔
      ∃ segments node, path = start.extend segments ∧
        FieldPath.resolve? ⟨start.label, segments⟩ value = some node ∧
        flagged node path = true := by
  rw [walk_eq]
  cases hroot : Node.ofJson? value with
  | none => simp [FieldPath.resolve?, hroot]
  | some root =>
      have hcanonical := Node.canonical_of_ofJson? hvalue hroot
      simp only [mem_flaggedPaths_iff, mem_visits_iff hcanonical, FieldPath.resolve?, hroot,
        Option.bind_some]
      constructor
      · rintro ⟨node, ⟨segments, hpath, hfollow⟩, hflagged⟩
        exact ⟨segments, node, hpath, hfollow, hflagged⟩
      · rintro ⟨segments, node, hpath, hfollow, hflagged⟩
        exact ⟨node, ⟨segments, hpath, hfollow⟩, hflagged⟩

theorem pairwise_walk {value : Json} (hvalue : value.Canonical) (start : FieldPath)
    (flagged : Node → FieldPath → Bool) :
    (walk value start flagged).Pairwise FieldPath.Before := by
  rw [walk_eq]
  cases hroot : Node.ofJson? value with
  | none => exact .nil
  | some root =>
      have hordered := pairwise_visits (Node.canonical_of_ofJson? hvalue hroot) start
      exact List.pairwise_map.2 (hordered.filter _)

theorem label_of_mem_missingDescriptions {value : Json} (hvalue : value.Canonical)
    {start path : FieldPath} {options : WalkOptions}
    (h : path ∈ missingDescriptions value start options) : path.label = start.label := by
  obtain ⟨segments, _, rfl, -⟩ := (mem_walk_iff hvalue).1 h
  rfl

/-- Whether a path is found is a question about the node to which it leads. -/
theorem mem_missingDescriptions_iff {value : Json} (hvalue : value.Canonical) {label : String}
    {options : WalkOptions} {path : FieldPath} :
    path ∈ missingDescriptions value (.root label) options ↔
      path.label = label ∧
        (path.resolve? value).map (fun node => lacksDescription options node path) = some true := by
  rw [missingDescriptions, mem_walk_iff hvalue]
  simp only [Option.map_eq_some_iff]
  constructor
  · rintro ⟨segments, node, rfl, hnode, hlacks⟩
    exact ⟨rfl, node, hnode, hlacks⟩
  · rintro ⟨rfl, node, hnode, hlacks⟩
    exact ⟨path.segments, node, rfl, hnode, hlacks⟩

/-- A walk over a canonical value, one whose objects have each key once and in order, finds the
flagged nodes among those that steps lead to: each by the path of its steps and no other, in the
order of paths. What is flagged elsewhere makes no difference, so `flagged` is only asked about a
node together with the path that leads to it. -/
theorem walk_finds_flagged_in_order {value : Json} (hvalue : value.Canonical) (start : FieldPath)
    (flagged : Node → FieldPath → Bool) :
    (∀ path, path ∈ walk value start flagged ↔
      ∃ segments node, path = start.extend segments ∧
        FieldPath.resolve? ⟨start.label, segments⟩ value = some node ∧ flagged node path = true) ∧
    (walk value start flagged).Pairwise FieldPath.Before ∧ (walk value start flagged).Nodup ∧
    ∀ other : Node → FieldPath → Bool,
      (∀ segments node, FieldPath.resolve? ⟨start.label, segments⟩ value = some node →
        other node (start.extend segments) = flagged node (start.extend segments)) →
      walk value start other = walk value start flagged := by
  simp only [walk_eq]
  cases hroot : Node.ofJson? value with
  | none => simp [FieldPath.resolve?, hroot]
  | some root =>
      have hcanonical := Node.canonical_of_ofJson? hvalue hroot
      have hordered : (flaggedPaths flagged (visits root start)).Pairwise FieldPath.Before :=
        List.pairwise_map.2 ((pairwise_visits hcanonical start).filter _)
      simp only [FieldPath.resolve?, hroot, Option.bind_some]
      refine ⟨fun path => ?_, hordered, hordered.imp ?_, fun other hother => ?_⟩
      · simp only [mem_flaggedPaths_iff, mem_visits_iff hcanonical]
        constructor
        · rintro ⟨node, ⟨segments, hpath, hfollow⟩, hflagged⟩
          exact ⟨segments, node, hpath, hfollow, hflagged⟩
        · rintro ⟨segments, node, hpath, hfollow, hflagged⟩
          exact ⟨node, ⟨segments, hpath, hfollow⟩, hflagged⟩
      · rintro a _ hbefore rfl
        exact a.before_irrefl hbefore
      · refine flaggedPaths_congr fun node path hvisit => ?_
        obtain ⟨segments, rfl, hfollow⟩ := (mem_visits_iff hcanonical).1 hvisit
        exact hother segments node hfollow

/-- A schema in which a boolean stands before a branch, below a property named like a keyword. -/
def mixedSchema : Json :=
  .object
    [("additionalProperties", .boolean false),
      ("properties", .object
        [("items", .object
          [("anyOf", .array
            [.boolean true, .object
              [("additionalProperties", .object [("type", .string "string")])]])]),
          ("total", .object [("type", .string "integer")])])]

theorem walk_mixedSchema :
    mixedSchema.Canonical ∧
    FieldPath.mk "Cart" [.items, .property "items", .branch .anyOf 1, .additionalProperties] ∈
      walk mixedSchema ⟨"Cart", [.items]⟩ (fun node _ => node.declaredType?.isSome) ∧
    (walk mixedSchema ⟨"Cart", [.items]⟩ fun node _ => node.declaredType?.isSome).Pairwise
      FieldPath.Before := by
  have hcanonical : mixedSchema.Canonical := by
    simp only [mixedSchema, Json.Canonical, Json.CanonicalMembers, Json.CanonicalItems,
      Members.Sorted]
    decide
  obtain ⟨hmem, hordered, -⟩ := walk_finds_flagged_in_order hcanonical ⟨"Cart", [.items]⟩
    fun node _ => node.declaredType?.isSome
  refine ⟨hcanonical, (hmem _).2 ?_, hordered⟩
  exact ⟨[.property "items", .branch .anyOf 1, .additionalProperties],
    ⟨[("type", .string "string")]⟩, rfl, rfl, by decide⟩

end SpecLint.Schema
