import SpecLint.Schema.Node

/-!
What a node says, read off the values under its keywords: whether it declares a type, describes
itself, lists its values, is composed of others or refers to another. A keyword whose value is null
counts for nothing, but for `const`, of which null may be the value. The lemmas say of each
question that a rule asks which values answer it.
-/

namespace SpecLint.Schema.Node

variable {node : Node}

/-- A keyword is not there, or its value is null. -/
def Omits (node : Node) (keyword : String) : Prop :=
  ∀ value, node.get? keyword = some value → value = .null

/-- The node names a type, or has a list that should name some. -/
def DeclaresType (node : Node) : Prop :=
  (∃ name, node.get? "type" = some (.string name) ∧ name ≠ "") ∨
    ∃ items, node.get? "type" = some (.array items)

/-- The description is a text that is not blank. -/
def IsDescribed (node : Node) : Prop :=
  ∃ text, node.get? "description" = some (.string text) ∧
    ∃ c ∈ text.toList, Text.isBlank c = false

theorem present?_eq_none_iff {keyword : String} :
    node.present? keyword = none ↔ node.Omits keyword := by
  have hnull : ∀ value : Json, value.isNull = true ↔ value = .null := by
    intro value
    cases value <;> simp [Json.isNull]
  simp [present?, Omits, Option.filter_eq_none_iff, hnull]

theorem text_get?_eq_some_iff {keyword text : String} :
    (node.get? keyword).bind Json.text? = some text ↔ node.get? keyword = some (.string text) := by
  have htext : ∀ value : Json, value.text? = some text ↔ value = .string text := by
    intro value
    cases value <;> simp [Json.text?]
  simp [Option.bind_eq_some_iff, htext]

theorem composition?_eq_none_iff :
    node.composition? = none ↔ ∀ kind : Composition, node.Omits kind.keyword := by
  have hkind : ∀ kind : Composition, kind ∈ Composition.all := by
    intro kind
    cases kind <;> simp [Composition.all]
  simp [composition?, hkind, present?_eq_none_iff]

theorem isIndirect_eq_false_iff :
    node.isIndirect = false ↔
      node.Omits "$ref" ∧ ∀ kind : Composition, node.Omits kind.keyword := by
  simp [isIndirect, present?_eq_none_iff, composition?_eq_none_iff]

theorem isEnumerated_eq_false_iff :
    node.isEnumerated = false ↔ node.Omits "enum" ∧ node.get? "const" = none := by
  simp [isEnumerated, hasEnum, present?_eq_none_iff]

theorem isSome_declaredType?_iff : node.declaredType?.isSome = true ↔ node.DeclaresType := by
  unfold declaredType? DeclaresType
  split
  · rename_i name hget
    by_cases hname : name = "" <;> simp [hget, hname]
  · rename_i hget
    simp [hget]
  · rename_i hstring harray
    simp only [Option.isSome_none, Bool.false_eq_true, false_iff, not_or, not_exists, not_and]
    exact ⟨fun name hget => absurd hget (hstring name), harray⟩

/-- A list of types does not declare one of them. -/
theorem declaresOnly_iff {name : String} (hname : name ≠ "") :
    node.declaredType?.any (·.isOnly name) = true ↔ node.get? "type" = some (.string name) := by
  unfold declaredType?
  split
  · rename_i declared hget
    by_cases hdeclared : declared = ""
    · simp [hget, hdeclared, Ne.symm hname]
    · simp [hget, hdeclared, TypeDecl.isOnly]
  · rename_i hget
    simp [hget, TypeDecl.isOnly]
  · rename_i hstring harray
    simpa using hstring name

theorem isSome_description?_iff : node.description?.isSome = true ↔ node.IsDescribed := by
  rw [Option.isSome_iff_exists]
  refine exists_congr fun text => ?_
  rw [description?, Option.filter_eq_some_iff, text_get?_eq_some_iff]
  simp [Text.isBlankText]

theorem shape_eq_reference_iff {target : String} :
    node.shape = .reference target ↔
      node.Omits "enum" ∧ node.get? "const" = none ∧
        (∀ kind : Composition, node.Omits kind.keyword) ∧
        node.get? "$ref" = some (.string target) := by
  rw [← composition?_eq_none_iff, ← text_get?_eq_some_iff, ← and_assoc,
    ← isEnumerated_eq_false_iff, ← reference?]
  unfold shape
  cases node.isEnumerated with
  | true => simp
  | false =>
      cases node.composition? with
      | some kind => simp
      | none =>
          cases node.reference? with
          | some other => simp
          | none =>
              -- Whatever is left to decide, it is not whether there is a reference.
              simp only [Bool.false_eq_true, if_false]
              repeat' split
              all_goals simp

end SpecLint.Schema.Node
