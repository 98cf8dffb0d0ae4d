import SpecLint.Json.Canonical
import SpecLint.Text.Blank

/-!
Schema nodes: one schema object, whether a whole definition or a field deep inside. The module reads
the keywords of a node, lists the nodes directly below it, and classifies it by the keyword that
carries its meaning.
-/

namespace SpecLint.Schema

/-- The keywords that compose schemas. -/
inductive Composition where
  | oneOf
  | anyOf
  | allOf
deriving DecidableEq, Repr

namespace Composition

/-- Every keyword, in the order in which branches are visited. -/
def all : List Composition := [.oneOf, .anyOf, .allOf]

def keyword : Composition → String
  | .oneOf => "oneOf"
  | .anyOf => "anyOf"
  | .allOf => "allOf"

end Composition

/-- A declared type: one name, or a list that should hold names. -/
inductive TypeDecl where
  | single (name : String)
  | union (items : List Json)

namespace TypeDecl

/-- Whether exactly this one type is declared. -/
def isOnly (name : String) : TypeDecl → Bool
  | .single declared => declared == name
  | .union _ => false

def names : TypeDecl → List String
  | .single name => [name]
  | .union items => items.filterMap Json.text?

/-- The declared names with commas between them. -/
def text (decl : TypeDecl) : String := ",".intercalate decl.names

end TypeDecl

/-- A schema object, seen through its keywords. -/
structure Node where
  keywords : Members

/-- One step from a node to a node below it. -/
inductive Segment where
  | property (name : String)
  | items
  | branch (kind : Composition) (index : Nat)
  | additionalProperties
deriving DecidableEq, Repr

/-- What carries the meaning of a node. -/
inductive Shape where
  | enumerated
  | composite (kind : Composition)
  | reference (target : String)
  | object
  | array
  | leaf (type : TypeDecl)
  | untyped

namespace Node

/-- The node of an object; other values are none. -/
def ofJson? (value : Json) : Option Node :=
  value.members?.map Node.mk

def get? (node : Node) (keyword : String) : Option Json :=
  node.keywords.get? keyword

/-- The value of a keyword, unless it is null. -/
def present? (node : Node) (keyword : String) : Option Json :=
  (node.get? keyword).filter fun value => !value.isNull

/-- The declared type; an empty name declares none. -/
def declaredType? (node : Node) : Option TypeDecl :=
  match node.get? "type" with
  | some (.string name) => if name == "" then none else some (.single name)
  | some (.array items) => some (.union items)
  | _ => none

/-- The description, if it has a character that is not blank. -/
def description? (node : Node) : Option String :=
  ((node.get? "description").bind Json.text?).filter fun text => !Text.isBlankText text

def reference? (node : Node) : Option String :=
  (node.get? "$ref").bind Json.text?

/-- Whether the values are listed by `enum`. -/
def hasEnum (node : Node) : Bool :=
  (node.present? "enum").isSome

/-- Whether the values are listed by `enum` or fixed by `const`. -/
def isEnumerated (node : Node) : Bool :=
  node.hasEnum || (node.get? "const").isSome

/-- The first keyword of composition that is present. -/
def composition? (node : Node) : Option Composition :=
  Composition.all.find? fun kind => (node.present? kind.keyword).isSome

/-- Whether the type of the node is declared elsewhere. -/
def isIndirect (node : Node) : Bool :=
  (node.present? "$ref").isSome || node.composition?.isSome

/-- Whether the node has an example. -/
def hasExample (node : Node) : Bool :=
  (node.present? "example").isSome || (node.present? "examples").isSome

/-- The members of the table of properties. -/
def propertyTable (node : Node) : Members :=
  ((node.get? "properties").bind Json.members?).getD []

/-- The properties that are nodes, in order of names. -/
def properties (node : Node) : List (String × Node) :=
  node.propertyTable.filterMap fun (name, value) => (ofJson? value).map (name, ·)

def property? (node : Node) (name : String) : Option Node :=
  (node.propertyTable.get? name).bind ofJson?

/-- The node of the items, if one schema holds for all of them. -/
def items? (node : Node) : Option Node :=
  (node.get? "items").bind ofJson?

/-- The values under a keyword of composition. -/
def branchList (node : Node) (kind : Composition) : List Json :=
  ((node.get? kind.keyword).bind Json.items?).getD []

/-- The branches that are nodes, keyword by keyword. -/
def branches (node : Node) : List (Composition × Nat × Node) :=
  Composition.all.flatMap fun kind =>
    (node.branchList kind).zipIdx.filterMap fun (value, index) =>
      (ofJson? value).map fun branch => (kind, index, branch)

def branch? (node : Node) (kind : Composition) (index : Nat) : Option Node :=
  ((node.branchList kind)[index]?).bind ofJson?

/-- The node of the properties that are not listed. -/
def additionalProperties? (node : Node) : Option Node :=
  (node.get? "additionalProperties").bind ofJson?

/-- The texts under `required`, in order. -/
def required (node : Node) : List String :=
  (((node.get? "required").bind Json.items?).getD []).filterMap Json.text?

/-- The classification of a node; the first keyword that applies decides. -/
def shape (node : Node) : Shape :=
  if node.isEnumerated then .enumerated
  else
    match node.composition?, node.reference? with
    | some kind, _ => .composite kind
    | none, some target => .reference target
    | none, none =>
      match node.declaredType? with
      | some declared =>
        if declared.isOnly "object" then .object
        else if declared.isOnly "array" then .array
        else .leaf declared
      | none =>
        if (node.get? "properties").isSome then .object
        else if (node.get? "items").isSome then .array
        else .untyped

def child? (node : Node) : Segment → Option Node
  | .property name => node.property? name
  | .items => node.items?
  | .branch kind index => node.branch? kind index
  | .additionalProperties => node.additionalProperties?

/-- Every node one step below, in the order of visits. -/
def children (node : Node) : List (Segment × Node) :=
  node.properties.map (fun (name, child) => (.property name, child)) ++
  node.items?.toList.map (fun child => (.items, child)) ++
  node.branches.map (fun (kind, index, child) => (.branch kind index, child)) ++
  node.additionalProperties?.toList.map (fun child => (.additionalProperties, child))

theorem ofJson?_eq_some_iff {value : Json} {node : Node} :
    ofJson? value = some node ↔ value = .object node.keywords := by
  cases value <;> simp [ofJson?, Json.members?]
  constructor
  · rintro rfl
    rfl
  · rintro rfl
    rfl

/-- The size of a node's keywords, by which descents end. -/
noncomputable def size (node : Node) : Nat := sizeOf node.keywords

theorem size_lt_of_ofJson? {value : Json} {node : Node} (h : ofJson? value = some node) :
    node.size < sizeOf value := by
  rw [ofJson?_eq_some_iff] at h
  subst h
  simp [size]

theorem sizeOf_lt_of_mem {members : Members} {key : String} {value : Json}
    (h : (key, value) ∈ members) : sizeOf value < sizeOf members := by
  have := List.sizeOf_lt_of_mem h
  simp only [Prod.mk.sizeOf_spec] at this
  omega

theorem sizeOf_lt_of_get? {members : Members} {key : String} {value : Json}
    (h : members.get? key = some value) : sizeOf value < sizeOf members :=
  sizeOf_lt_of_mem (Members.mem_of_get? h)

theorem sizeOf_propertyTable_le (node : Node) : sizeOf node.propertyTable ≤ node.size := by
  unfold propertyTable
  cases h : (node.get? "properties").bind Json.members? with
  | none =>
    simp only [Option.getD_none, size]
    cases node.keywords with
    | nil => simp
    | cons _ _ =>
      simp
      omega
  | some members =>
    obtain ⟨value, hv, hm⟩ := Option.bind_eq_some_iff.1 h
    cases value <;> simp [Json.members?] at hm
    subst hm
    have := sizeOf_lt_of_get? hv
    simp only [Json.object.sizeOf_spec] at this
    simp only [Option.getD_some, size]
    omega

theorem size_keyword_lt {node child : Node} {keyword : String}
    (h : (node.get? keyword).bind ofJson? = some child) : child.size < node.size := by
  obtain ⟨value, hv, hc⟩ := Option.bind_eq_some_iff.1 h
  have := sizeOf_lt_of_get? hv
  have := size_lt_of_ofJson? hc
  simp only [size] at *
  omega

theorem size_lt_of_mem_branchList {node child : Node} {kind : Composition} {value : Json}
    (hv : value ∈ node.branchList kind) (hc : ofJson? value = some child) :
    child.size < node.size := by
  unfold branchList at hv
  cases h : (node.get? kind.keyword).bind Json.items? with
  | none => simp [h] at hv
  | some items =>
    rw [h, Option.getD_some] at hv
    obtain ⟨list, hl, hi⟩ := Option.bind_eq_some_iff.1 h
    cases list <;> simp [Json.items?] at hi
    subst hi
    have h1 := List.sizeOf_lt_of_mem hv
    have h2 := sizeOf_lt_of_get? hl
    have h3 := size_lt_of_ofJson? hc
    simp only [Json.array.sizeOf_spec] at h2
    simp only [size] at *
    omega

/-- A node below another is smaller. -/
theorem size_lt_of_mem_children {node child : Node} {segment : Segment}
    (h : (segment, child) ∈ node.children) : child.size < node.size := by
  simp only [children, List.mem_append, List.mem_map, Prod.mk.injEq, Prod.exists,
    Option.mem_toList] at h
  rcases h with ((⟨name, c, h, -, rfl⟩ | ⟨c, h, -, rfl⟩) | ⟨kind, index, c, h, -, rfl⟩) |
    ⟨c, h, -, rfl⟩
  · simp only [properties, List.mem_filterMap, Option.map_eq_some_iff, Prod.mk.injEq,
      Prod.exists] at h
    obtain ⟨key, value, hv, c', hc, -, rfl⟩ := h
    have := sizeOf_lt_of_mem hv
    have := size_lt_of_ofJson? hc
    have := sizeOf_propertyTable_le node
    omega
  · exact size_keyword_lt h
  · simp only [branches, List.mem_flatMap, List.mem_filterMap, Option.map_eq_some_iff,
      Prod.mk.injEq, Prod.exists] at h
    obtain ⟨k, -, value, i, hv, c', hc, -, -, rfl⟩ := h
    exact size_lt_of_mem_branchList (List.fst_mem_of_mem_zipIdx hv) hc
  · exact size_keyword_lt h

end Node

end SpecLint.Schema
