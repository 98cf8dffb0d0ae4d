import Mathlib.Data.List.Sort
import SpecLint.Proofs.Schema.Walk

/-!
Changing one node of a schema. The change is made where some steps lead, and every node on the way
is given its new child in place of the former one. What any steps lead to afterwards is told by
`follow_editAt`: at the place itself it is the changed node, below it and beside it nothing is
different, and above it are nodes with a new child. Since a child of a node is under one of the
keywords that hold schemas and stays under it, whether a node needs a description is not affected
by what becomes of its children, so that a description that is added settles one finding only.
-/

namespace SpecLint.Schema

/-- The keyword under which a step goes on. -/
def Segment.keyword : Segment → String
  | .property _ => "properties"
  | .items => "items"
  | .branch kind _ => kind.keyword
  | .additionalProperties => "additionalProperties"

/-- The keywords that hold schemas. -/
def Segment.keywords : List String :=
  ["properties", "items", "oneOf", "anyOf", "allOf", "additionalProperties"]

theorem Segment.ne_keyword {keyword : String} (h : keyword ∉ keywords) (a : Segment) :
    keyword ≠ a.keyword := by
  rintro rfl
  revert h
  cases a with
  | branch kind _ => cases kind <;> simp [Segment.keyword, Composition.keyword, keywords]
  | property _ | items | additionalProperties => simp [Segment.keyword, keywords]

/-- Steps under one keyword go to two properties, to two branches, or to the same node. -/
theorem Segment.cases_of_keyword_eq {a b : Segment} (h : a.keyword = b.keyword) :
    (∃ name other, a = .property name ∧ b = .property other) ∨
      (∃ kind index other, a = .branch kind index ∧ b = .branch kind other) ∨
      (a = .items ∧ b = .items) ∨ (a = .additionalProperties ∧ b = .additionalProperties) := by
  cases a with
  | property name =>
      cases b with
      | property other => exact Or.inl ⟨name, other, rfl, rfl⟩
      | branch kind index => cases kind <;> simp [keyword, Composition.keyword] at h
      | items | additionalProperties => simp [keyword] at h
  | branch kind index =>
      cases b with
      | branch other place =>
          have hkind : kind = other := by
            cases kind <;> cases other <;> simp_all [keyword, Composition.keyword]
          subst hkind
          exact Or.inr (Or.inl ⟨kind, index, place, rfl, rfl⟩)
      | property _ | items | additionalProperties =>
          cases kind <;> simp [keyword, Composition.keyword] at h
  | items | additionalProperties =>
      cases b with
      | branch kind index => cases kind <;> simp [keyword, Composition.keyword] at h
      | property _ | items | additionalProperties => simp_all [keyword]

namespace Node

variable {node child : Node} {a b : Segment}

/-- What a keyword holds after one of the values in it, to which a step goes, is replaced. -/
def holding (node : Node) (value : Json) : Segment → Json
  | .property name => .object (Members.insert name value node.propertyTable)
  | .branch kind index => .array ((node.branchList kind).set index value)
  | .items | .additionalProperties => value

/-- The node with another value where a step goes. -/
def replace (node : Node) (segment : Segment) (value : Json) : Node :=
  ⟨Members.insert segment.keyword (node.holding value segment) node.keywords⟩

theorem get?_replace (node : Node) (segment : Segment) (value : Json) (keyword : String) :
    (node.replace segment value).get? keyword =
      if keyword = segment.keyword then some (node.holding value segment)
      else node.get? keyword :=
  Members.get?_insert node.keywords segment.keyword keyword (node.holding value segment)

theorem ofJson?_object (node : Node) : ofJson? (.object node.keywords) = some node := rfl

/-- Where a step leads depends on its keyword alone. -/
theorem child?_eq_of_get?_eq {other : Node} (h : node.get? b.keyword = other.get? b.keyword) :
    node.child? b = other.child? b := by
  cases b with
  | property name => simp only [child?, property?, propertyTable, Segment.keyword] at h ⊢; rw [h]
  | items => simp only [child?, items?, Segment.keyword] at h ⊢; rw [h]
  | branch kind index => simp only [child?, branch?, branchList, Segment.keyword] at h ⊢; rw [h]
  | additionalProperties =>
      simp only [child?, additionalProperties?, Segment.keyword] at h ⊢; rw [h]

/-- After one child is replaced, a step leads to the new child or where it led before. -/
theorem child?_replace (h : node.child? a = some child) (next : Node) (b : Segment) :
    (node.replace a (.object next.keywords)).child? b =
      if b = a then some next else node.child? b := by
  have hget := node.get?_replace a (.object next.keywords)
  by_cases hkeyword : b.keyword = a.keyword
  · have hheld := hget b.keyword
    rw [if_pos hkeyword] at hheld
    rcases Segment.cases_of_keyword_eq hkeyword with
      ⟨other, name, rfl, rfl⟩ | ⟨kind, other, index, rfl, rfl⟩ | ⟨rfl, rfl⟩ | ⟨rfl, rfl⟩
    · have htable : (node.replace (.property name) (.object next.keywords)).propertyTable =
          Members.insert name (.object next.keywords) node.propertyTable := by
        rw [propertyTable, show get? _ "properties" = _ from hheld]
        rfl
      rw [child?, property?, htable, Members.get?_insert]
      by_cases hname : other = name
      · simp [hname, ofJson?_object]
      · simp [hname, child?, property?]
    · have hlist : (node.replace (.branch kind index) (.object next.keywords)).branchList kind =
          (node.branchList kind).set index (.object next.keywords) := by
        rw [branchList, show get? _ kind.keyword = _ from hheld]
        rfl
      rw [child?, branch?, hlist, List.getElem?_set]
      by_cases hindex : other = index
      · subst hindex
        obtain ⟨value, hvalue, -⟩ := Option.bind_eq_some_iff.1 h
        have hlt : other < (node.branchList kind).length :=
          (List.getElem?_eq_some_iff.1 hvalue).choose
        simp [hlt, ofJson?_object]
      · simp [hindex, Ne.symm hindex, child?, branch?]
    · rw [child?, items?, show get? _ "items" = _ from hheld]
      simp [holding, ofJson?_object]
    · rw [child?, additionalProperties?, show get? _ "additionalProperties" = _ from hheld]
      simp [holding, ofJson?_object]
  · have hne : b ≠ a := fun heq => hkeyword (heq ▸ rfl)
    rw [if_neg hne]
    exact child?_eq_of_get?_eq ((hget _).trans (if_neg hkeyword))

theorem get?_replace_of_ne {keyword : String} (h : keyword ≠ a.keyword) (value : Json) :
    (node.replace a value).get? keyword = node.get? keyword :=
  (node.get?_replace a value keyword).trans (if_neg h)

/-- Where a step leads somewhere, its keyword holds something that is not null. -/
theorem isSome_present?_keyword (h : node.child? a = some child) :
    (node.present? a.keyword).isSome = true := by
  cases a with
  | property name =>
      obtain ⟨value, hvalue, -⟩ := Option.bind_eq_some_iff.1 h
      rw [propertyTable] at hvalue
      cases htable : (node.get? "properties").bind Json.members? with
      | none => simp [htable, Members.get?] at hvalue
      | some members =>
          obtain ⟨table, hget, hmembers⟩ := Option.bind_eq_some_iff.1 htable
          cases table <;> cases hmembers
          simp [present?, Segment.keyword, hget, Json.isNull]
  | branch kind index =>
      obtain ⟨value, hvalue, -⟩ := Option.bind_eq_some_iff.1 h
      rw [branchList] at hvalue
      cases hlist : (node.get? kind.keyword).bind Json.items? with
      | none => simp [hlist] at hvalue
      | some items =>
          obtain ⟨list, hget, hitems⟩ := Option.bind_eq_some_iff.1 hlist
          cases list <;> cases hitems
          simp [present?, Segment.keyword, hget, Json.isNull]
  | items | additionalProperties =>
      obtain ⟨value, hget, hchild⟩ := Option.bind_eq_some_iff.1 h
      rw [ofJson?_eq_some_iff.1 hchild] at hget
      simp [present?, Segment.keyword, hget, Json.isNull]

theorem isNull_holding (node : Node) (a : Segment) (members : Members) :
    (node.holding (.object members) a).isNull = false := by
  cases a <;> rfl

theorem isSome_present?_replace (h : node.child? a = some child) (members : Members)
    (keyword : String) :
    ((node.replace a (.object members)).present? keyword).isSome =
      (node.present? keyword).isSome := by
  by_cases hkeyword : keyword = a.keyword
  · subst hkeyword
    rw [isSome_present?_keyword h, present?, get?_replace, if_pos rfl]
    simp [isNull_holding]
  · rw [present?, get?_replace_of_ne hkeyword, present?]

theorem isSome_get?_replace (h : node.child? a = some child) (members : Members)
    (keyword : String) :
    ((node.replace a (.object members)).get? keyword).isSome = (node.get? keyword).isSome := by
  by_cases hkeyword : keyword = a.keyword
  · subst hkeyword
    obtain ⟨value, hvalue⟩ := Option.isSome_iff_exists.1 (isSome_present?_keyword h)
    rw [get?_replace, if_pos rfl, (Option.filter_eq_some_iff.1 hvalue).1]
    rfl
  · rw [get?_replace_of_ne hkeyword]

theorem declaredType?_replace (node : Node) (a : Segment) (value : Json) :
    (node.replace a value).declaredType? = node.declaredType? := by
  rw [declaredType?, get?_replace_of_ne (a.ne_keyword (by decide)), declaredType?]

theorem description?_replace (node : Node) (a : Segment) (value : Json) :
    (node.replace a value).description? = node.description? := by
  rw [description?, get?_replace_of_ne (a.ne_keyword (by decide)), description?]

theorem reference?_replace (node : Node) (a : Segment) (value : Json) :
    (node.replace a value).reference? = node.reference? := by
  rw [reference?, get?_replace_of_ne (a.ne_keyword (by decide)), reference?]

theorem isEnumerated_replace (h : node.child? a = some child) (members : Members) :
    (node.replace a (.object members)).isEnumerated = node.isEnumerated := by
  simp only [isEnumerated, hasEnum, isSome_present?_replace h, isSome_get?_replace h]

theorem composition?_replace (h : node.child? a = some child) (members : Members) :
    (node.replace a (.object members)).composition? = node.composition? := by
  simp only [composition?, isSome_present?_replace h]

/-- What carries the meaning of a node is still what carried it before. -/
theorem shape_replace (h : node.child? a = some child) (members : Members) :
    (node.replace a (.object members)).shape = node.shape := by
  rw [shape, isEnumerated_replace h, composition?_replace h, reference?_replace,
    declaredType?_replace, isSome_get?_replace h, isSome_get?_replace h, shape]

/-- A node with a new child needs a description if it needed one before. -/
theorem lacksDescription_replace (h : node.child? a = some child) (members : Members)
    (options : WalkOptions) (path : FieldPath) :
    lacksDescription options (node.replace a (.object members)) path =
      lacksDescription options node path := by
  simp only [lacksDescription, declaredType?_replace, description?_replace, shape_replace h]

theorem canonical_replace (hnode : node.Canonical) {value : Json} (hvalue : value.Canonical)
    (a : Segment) : (node.replace a value).Canonical := by
  refine Json.canonical_insert _ hnode ?_
  cases a with
  | property name => exact Json.canonical_insert name (canonical_propertyTable hnode) hvalue
  | branch kind index =>
      refine Json.canonicalItems_iff.2 fun item hitem => ?_
      rcases List.mem_or_eq_of_mem_set hitem with hitem | rfl
      · exact canonical_of_mem_branchList hnode hitem
      · exact hvalue
  | items | additionalProperties => exact hvalue

/-! ### Changes below a node -/

/-- The node with a change where some steps lead; the node itself if they lead nowhere. -/
def editAt (change : Node → Node) : List Segment → Node → Node
  | [], node => change node
  | segment :: rest, node =>
    match node.child? segment with
    | none => node
    | some child => node.replace segment (.object (editAt change rest child).keywords)

variable {change : Node → Node}

/-- On the way to the change, each node has everything changed that was to be changed below it. -/
theorem follow_editAt_append (change : Node → Node) (front rest : List Segment) (node : Node) :
    FieldPath.follow front (editAt change (front ++ rest) node) =
      (FieldPath.follow front node).map (editAt change rest) := by
  induction front generalizing node with
  | nil => rfl
  | cons segment front ih =>
      rw [List.cons_append, editAt]
      cases hchild : node.child? segment with
      | none => simp [FieldPath.follow, hchild]
      | some child =>
          rw [FieldPath.follow, child?_replace hchild, if_pos rfl, FieldPath.follow, hchild]
          exact ih child

/-- Away from the way to the change, steps lead to what they led to. -/
theorem follow_editAt_of_not_prefix (hchange : ∀ node a, (change node).child? a = node.child? a)
    {steps other : List Segment} (h : ¬other <+: steps) (node : Node) :
    FieldPath.follow other (editAt change steps node) = FieldPath.follow other node := by
  induction steps generalizing other node with
  | nil =>
      obtain _ | ⟨a, other⟩ := other
      · exact absurd List.nil_prefix h
      · rw [editAt, FieldPath.follow, hchange, FieldPath.follow]
  | cons segment steps ih =>
      obtain _ | ⟨a, other⟩ := other
      · exact absurd List.nil_prefix h
      · rw [editAt]
        cases hchild : node.child? segment with
        | none => rfl
        | some child =>
            rw [FieldPath.follow, child?_replace hchild, FieldPath.follow]
            by_cases ha : a = segment
            · subst ha
              have hother : ¬other <+: steps := fun hother =>
                h (List.cons_prefix_cons.2 ⟨rfl, hother⟩)
              rw [if_pos rfl, hchild]
              exact ih hother child
            · rw [if_neg ha]

theorem lacksDescription_editAt_cons (segment : Segment) (rest : List Segment) (node : Node)
    (options : WalkOptions) (path : FieldPath) :
    lacksDescription options (editAt change (segment :: rest) node) path =
      lacksDescription options node path := by
  rw [editAt]
  cases hchild : node.child? segment with
  | none => rfl
  | some child => exact lacksDescription_replace hchild _ options path

theorem canonical_editAt (hchange : ∀ node : Node, node.Canonical → (change node).Canonical)
    (steps : List Segment) {node : Node} (hnode : node.Canonical) :
    (editAt change steps node).Canonical := by
  induction steps generalizing node with
  | nil => exact hchange node hnode
  | cons segment steps ih =>
      rw [editAt]
      cases hchild : node.child? segment with
      | none => exact hnode
      | some child => exact canonical_replace hnode (ih (canonical_of_child? hnode hchild)) segment

/-! ### Descriptions -/

/-- The node with a text as its description. -/
def describe (text : String) (node : Node) : Node :=
  ⟨Members.insert "description" (.string text) node.keywords⟩

theorem get?_describe (text : String) (node : Node) (keyword : String) :
    (node.describe text).get? keyword =
      if keyword = "description" then some (.string text) else node.get? keyword :=
  Members.get?_insert node.keywords "description" keyword (.string text)

theorem child?_describe (text : String) (node : Node) (a : Segment) :
    (node.describe text).child? a = node.child? a := by
  have hne : a.keyword ≠ "description" := (a.ne_keyword (by decide)).symm
  exact child?_eq_of_get?_eq ((get?_describe text node a.keyword).trans (if_neg hne))

theorem lacksDescription_describe {text : String} (htext : Text.isBlankText text = false)
    (node : Node) (options : WalkOptions) (path : FieldPath) :
    lacksDescription options (node.describe text) path = false := by
  have hdescription : (node.describe text).description? = some text := by
    rw [description?, get?_describe, if_pos rfl]
    simp [Json.text?, htext]
  simp [lacksDescription, hdescription]

end Node

namespace FieldPath

/-- The value with a text as the description of the node to which the path leads. -/
def describe (path : FieldPath) (text : String) (value : Json) : Json :=
  match Node.ofJson? value with
  | none => value
  | some root => .object (root.editAt (Node.describe text) path.segments).keywords

variable {path other : FieldPath} {text : String} {value : Json}

theorem resolve?_describe (path other : FieldPath) (text : String) (value : Json) :
    other.resolve? (path.describe text value) = (Node.ofJson? value).bind fun root =>
      follow other.segments (root.editAt (Node.describe text) path.segments) := by
  rw [describe, resolve?]
  cases hroot : Node.ofJson? value with
  | none => simp [hroot]
  | some root => rfl

theorem resolve?_describe_self (path : FieldPath) (text : String) (value : Json) :
    path.resolve? (path.describe text value) = (path.resolve? value).map (Node.describe text) := by
  rw [resolve?_describe, resolve?, Option.map_bind]
  congr 1
  funext root
  have hfollow := Node.follow_editAt_append (Node.describe text) path.segments [] root
  rw [List.append_nil] at hfollow
  exact hfollow

theorem resolve?_describe_of_not_prefix (h : ¬other.segments <+: path.segments) (text : String)
    (value : Json) : other.resolve? (path.describe text value) = other.resolve? value := by
  rw [resolve?_describe, resolve?]
  congr 1
  funext root
  exact Node.follow_editAt_of_not_prefix (Node.child?_describe text) h root

example :
    FieldPath.describe ⟨"Cart", [.property "items", .branch .anyOf 1]⟩ "A line." mixedSchema =
      .object
        [("additionalProperties", .boolean false),
          ("properties", .object
            [("items", .object
              [("anyOf", .array
                [.boolean true, .object
                  [("additionalProperties", .object [("type", .string "string")]),
                    ("description", .string "A line.")]])]),
              ("total", .object [("type", .string "integer")])])] := by
  rfl

theorem canonical_describe (hvalue : value.Canonical) (path : FieldPath) (text : String) :
    (path.describe text value).Canonical := by
  rw [describe]
  cases hroot : Node.ofJson? value with
  | none => exact hvalue
  | some root =>
      have hdescribe : ∀ node : Node, node.Canonical → (node.describe text).Canonical :=
        fun node hnode => Json.canonical_insert "description" hnode trivial
      exact Node.canonical_editAt hdescribe path.segments (Node.canonical_of_ofJson? hvalue hroot)

end FieldPath

/-- A description anywhere leaves it as it is whether the nodes elsewhere need one. -/
theorem map_lacksDescription_describe {path other : FieldPath}
    (hne : other.segments ≠ path.segments) (text : String) (value : Json) (options : WalkOptions) :
    (other.resolve? (path.describe text value)).map
        (fun node => lacksDescription options node other) =
      (other.resolve? value).map fun node => lacksDescription options node other := by
  by_cases hprefix : other.segments <+: path.segments
  · -- The node is on the way to the description, and all that it has is a new child.
    obtain ⟨rest, hrest⟩ := hprefix
    obtain _ | ⟨segment, rest⟩ := rest
    · rw [List.append_nil] at hrest
      exact absurd hrest hne
    · rw [FieldPath.resolve?_describe, FieldPath.resolve?, Option.map_bind, Option.map_bind,
        ← hrest]
      congr 1
      funext root
      simp only [Function.comp_apply, Node.follow_editAt_append, Option.map_map]
      congr 1
      funext node
      exact Node.lacksDescription_editAt_cons segment rest node options other
  · rw [FieldPath.resolve?_describe_of_not_prefix hprefix]

/-- If a text that is not blank is set as the description of a node that was found to need one,
then the walk finds the same nodes in the same order without this one. The node is the only one
that has another description, since no way but its own leads to its place. -/
theorem missingDescriptions_describe {value : Json} (hvalue : value.Canonical) {label text : String}
    {options : WalkOptions} {path : FieldPath}
    (hpath : path ∈ missingDescriptions value (.root label) options)
    (htext : ∃ c ∈ text.toList, Text.isBlank c = false) :
    (∃ node, path.resolve? value = some node ∧
      path.resolve? (path.describe text value) = some (node.describe text)) ∧
    (∀ other : FieldPath, ¬other.segments <+: path.segments →
      other.resolve? (path.describe text value) = other.resolve? value) ∧
    missingDescriptions (path.describe text value) (.root label) options =
      (missingDescriptions value (.root label) options).filter fun other => other ≠ path := by
  obtain ⟨hlabel, hfound⟩ := (mem_missingDescriptions_iff hvalue).1 hpath
  obtain ⟨node, hnode, -⟩ := Option.map_eq_some_iff.1 hfound
  have hself : path.resolve? (path.describe text value) = some (node.describe text) := by
    rw [FieldPath.resolve?_describe_self, hnode]
    rfl
  have hdescribed := FieldPath.canonical_describe hvalue path text
  refine ⟨⟨node, hnode, hself⟩, fun other hother => ?_, ?_⟩
  · exact FieldPath.resolve?_describe_of_not_prefix hother text value
  · -- Both lists are in the order of paths, so it is enough that they have the same members.
    have hordered := pairwise_walk hvalue (.root label) (lacksDescription options)
    refine (pairwise_walk hdescribed (.root label) _).eq_of_mem_iff (hordered.filter _) ?_
    intro other
    show other ∈ missingDescriptions _ _ _ ↔ other ∈ (missingDescriptions _ _ _).filter _
    rw [List.mem_filter, decide_eq_true_eq, mem_missingDescriptions_iff hvalue,
      mem_missingDescriptions_iff hdescribed]
    by_cases hother : other = path
    · have hblank : Text.isBlankText text = false := by
        simpa [Text.isBlankText] using htext
      subst hother
      simp [hself, Node.lacksDescription_describe hblank]
    · rw [and_iff_left hother]
      refine and_congr_right fun hlabel' => ?_
      have hne : other.segments ≠ path.segments := by
        intro heq
        cases other
        cases path
        cases hlabel
        cases hlabel'
        cases heq
        exact hother rfl
      rw [map_lacksDescription_describe hne]

theorem missingDescriptions_describe_mixedSchema :
    mixedSchema.Canonical ∧
    FieldPath.mk "Cart" [.property "items", .branch .anyOf 1, .additionalProperties] ∈
      missingDescriptions mixedSchema (.root "Cart") .jsonSchema ∧
    (∃ c ∈ " a".toList, Text.isBlank c = false) ∧
    missingDescriptions (FieldPath.describe
        ⟨"Cart", [.property "items", .branch .anyOf 1, .additionalProperties]⟩ " a" mixedSchema)
        (.root "Cart") .jsonSchema =
      (missingDescriptions mixedSchema (.root "Cart") .jsonSchema).filter fun other =>
        other ≠ ⟨"Cart", [.property "items", .branch .anyOf 1, .additionalProperties]⟩ := by
  have hcanonical : mixedSchema.Canonical := Json.canonical_canonicalize mixedSchema
  have hfound : FieldPath.mk "Cart" [.property "items", .branch .anyOf 1, .additionalProperties] ∈
      missingDescriptions mixedSchema (.root "Cart") .jsonSchema :=
    (mem_missingDescriptions_iff hcanonical).2 ⟨rfl, rfl⟩
  have htext : ∃ c ∈ " a".toList, Text.isBlank c = false := ⟨'a', by decide, by decide⟩
  exact ⟨hcanonical, hfound, htext, (missingDescriptions_describe hcanonical hfound htext).2.2⟩

end SpecLint.Schema
