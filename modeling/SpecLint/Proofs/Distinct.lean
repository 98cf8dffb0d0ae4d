import Mathlib.Data.List.Duplicate
import SpecLint.Proofs.Conformance
import SpecLint.Proofs.Undescribed

/-!
Whether what is found in one family is told apart. Members of a document have each name once, so a
rule that makes one finding of each member, or of each property of a member, makes no two that are
equal. Two rules do more: the names that a family may not have come from a list in which one may
stand twice (`nodup_prohibitedInFamily_iff`), and fields without a description are told apart by
their paths as texts, which may be the same for different paths (`nodup_undescribedInSchema_iff`,
`nodup_undescribedInInterface_iff`).
-/

namespace SpecLint

open Conformance Schema

theorem nodup_eraseDups {α : Type} [BEq α] [LawfulBEq α] (values : List α) :
    values.eraseDups.Nodup := by
  cases values with
  | nil => exact List.nodup_nil
  | cons value values =>
      rw [List.eraseDups_cons, List.nodup_cons]
      refine ⟨fun hmem => ?_, nodup_eraseDups _⟩
      have hkept := (List.mem_filter.1 (List.mem_eraseDups.1 hmem)).2
      simp at hkept
termination_by values.length
decreasing_by exact Nat.lt_succ_of_le (List.length_filter_le _ _)

/-- Members that are told apart by their names stay so when something is made of each. -/
theorem Members.Sorted.nodup_map {α : Type} {members : Members} (h : members.Sorted)
    {make : String × Json → α} (hname : ∀ a b, make a = make b → a.1 = b.1) :
    (members.map make).Nodup := by
  refine List.pairwise_map.2 (h.imp fun {a b} hlt heq => ?_)
  rw [hname a b heq] at hlt
  exact String.lt_irrefl _ hlt

/-! ### Paths of fields -/

namespace Schema

/-- Of two paths below one label, at least the texts differ. -/
def ToldApart (paths : List FieldPath) : Prop :=
  ∀ a ∈ paths, ∀ b ∈ paths, a.label = b.label → a.text = b.text → a = b

end Schema

namespace Rule

variable {config : Config} {version : VersionTag} {family : Family}

theorem nodup_map_undescribedField_iff {rule : RuleId} {message : String} {context : Context}
    {paths : List FieldPath} (h : paths.Nodup) :
    (paths.map (undescribedField rule message context)).Nodup ↔ ToldApart paths := by
  have heq : ∀ a b, undescribedField rule message context a =
      undescribedField rule message context b ↔ a.label = b.label ∧ a.text = b.text := by
    intro a b
    constructor
    · intro hab
      exact ⟨Option.some.inj (congrArg (·.context.schema) hab),
        Option.some.inj (congrArg (·.context.field) hab)⟩
    · rintro ⟨hlabel, htext⟩
      rw [undescribedField, undescribedField, hlabel, htext]
  rw [List.nodup_map_iff_inj_on h]
  simp only [heq, and_imp, ToldApart]

/-! ### What is found in a family -/

theorem nodup_jsonSchemaState (version : VersionTag) (family : Family)
    (artifacts : FamilyArtifacts) : (jsonSchemaState version family artifacts).Nodup := by
  unfold jsonSchemaState
  split
  · split
    · exact List.nodup_nil
    · exact List.nodup_singleton _
  · exact List.nodup_singleton _
  · exact List.nodup_singleton _

theorem nodup_openApiState (version : VersionTag) (family : Family)
    (artifacts : FamilyArtifacts) : (openApiState version family artifacts).Nodup := by
  unfold openApiState
  split
  · split
    · exact List.nodup_nil
    · exact List.nodup_singleton _
  · exact List.nodup_singleton _
  · exact List.nodup_singleton _

theorem nodup_filter_iff {α : Type} [DecidableEq α] {values : List α} {keep : α → Bool} :
    (values.filter keep).Nodup ↔ ∀ value, List.Duplicate value values → keep value = false := by
  simp only [List.nodup_iff_count_le_one, List.duplicate_iff_two_le_count]
  constructor
  · intro h value htwice
    by_contra hkeep
    have hcount := h value
    rw [List.count_filter (by simpa using hkeep)] at hcount
    omega
  · intro h value
    by_contra hcount
    have hmem : value ∈ values.filter keep := List.count_pos_iff.1 (by omega)
    have hkeep := (List.mem_filter.1 hmem).2
    rw [List.count_filter hkeep] at hcount
    rw [h value (by omega)] at hkeep
    cases hkeep

/-- A definition that a family may not have is found twice if it is listed twice. -/
theorem nodup_prohibitedInFamily_iff {artifacts : FamilyArtifacts} :
    (prohibitedInFamily config version family artifacts).Nodup ↔
      ∀ document, artifacts.jsonSchema.document? = some document →
        ∀ name, List.Duplicate name (config.prohibitedFor family) →
          document.hasDefinition name = false := by
  unfold prohibitedInFamily
  cases artifacts.jsonSchema.document? with
  | none => simp
  | some document =>
      simp only [Option.some.injEq, forall_eq', ← nodup_filter_iff]
      refine List.nodup_map_iff fun a b hab => ?_
      exact Option.some.inj (congrArg (·.context.schema) hab)

theorem nodup_wrongAmounts (config : Config) (version : VersionTag) (family : Family)
    (kind : ArtifactKind) {definitions : Members} (h : (Json.object definitions).Canonical) :
    (wrongAmounts config version family kind definitions).Nodup := by
  refine List.nodup_flatMap.2 ⟨?_, h.1.imp ?_⟩
  · rintro ⟨name, value⟩ hmem
    dsimp only
    cases hnode : Node.ofJson? value with
    | none => exact List.nodup_nil
    | some node =>
        have hcanonical := Node.canonical_of_ofJson? (Json.canonical_of_mem h hmem) hnode
        refine List.pairwise_map.2 (((Node.pairwise_properties hcanonical).filter _).imp ?_)
        rintro ⟨field, _⟩ ⟨other, _⟩ hlt heq
        have hfield : field = other := Option.some.inj (congrArg (·.context.field) heq)
        rw [hfield] at hlt
        exact String.lt_irrefl _ hlt
  · rintro ⟨name, value⟩ ⟨other, value'⟩ hlt finding hfound hfound'
    dsimp only at hfound hfound'
    split at hfound
    · cases hfound
    · split at hfound'
      · cases hfound'
      · obtain ⟨_, -, rfl⟩ := List.mem_map.1 hfound
        obtain ⟨_, -, heq⟩ := List.mem_map.1 hfound'
        have hname : other = name := Option.some.inj (congrArg (·.context.schema) heq)
        rw [hname] at hlt
        exact String.lt_irrefl _ hlt

theorem nodup_schemaAmounts (config : Config) (version : VersionTag) (family : Family)
    (artifacts : FamilyArtifacts) : (schemaAmounts config version family artifacts).Nodup := by
  unfold schemaAmounts
  split
  · exact nodup_wrongAmounts config version family _ (JsonSchemaDocument.canonical_definitions _)
  · exact List.nodup_nil

theorem nodup_interfaceAmounts (config : Config) (version : VersionTag) (family : Family)
    (artifacts : FamilyArtifacts) : (interfaceAmounts config version family artifacts).Nodup := by
  unfold interfaceAmounts
  split
  · exact nodup_wrongAmounts config version family _ (OpenApiDocument.canonical_schemas _)
  · exact List.nodup_nil

theorem nodup_undescribedInSchema_iff {artifacts : FamilyArtifacts} :
    (undescribedInSchema version family artifacts).Nodup ↔
      ∀ document, artifacts.jsonSchema.document? = some document →
        ToldApart (undescribedPaths .jsonSchema document.definitions) := by
  unfold undescribedInSchema
  cases artifacts.jsonSchema.document? with
  | none => simp
  | some document =>
      let context := Context.ofArtifact version family .jsonSchema
      have hcanonical := document.canonical_definitions
      have hmodels : (undescribedModels context document.definitions).Nodup := by
        refine Members.Sorted.nodup_map (hcanonical.1.filter _) fun a b heq => ?_
        exact Option.some.inj (congrArg (·.context.model) heq)
      -- What is said of a definition names it as a model, what is said of a field does not.
      have happart : ∀ finding ∈ undescribedModels context document.definitions,
          finding ∉ (undescribedPaths .jsonSchema document.definitions).map
            (undescribedField .fieldDescription "Field is missing description: " context) := by
        intro finding hmodel hfield
        obtain ⟨_, -, rfl⟩ := List.mem_map.1 hmodel
        obtain ⟨_, -, heq⟩ := List.mem_map.1 hfield
        cases congrArg (·.context.model) heq
      simp only [Option.some.injEq, forall_eq']
      rw [List.nodup_append', nodup_map_undescribedField_iff
        (nodup_undescribedPaths .jsonSchema hcanonical)]
      exact ⟨fun h => h.2.1, fun h => ⟨hmodels, h, fun finding => happart finding⟩⟩

theorem nodup_undescribedInInterface_iff {artifacts : FamilyArtifacts} :
    (undescribedInInterface version family artifacts).Nodup ↔
      ∀ document, artifacts.openApi.document? = some document →
        ToldApart (undescribedPaths .openApi document.schemas) := by
  unfold undescribedInInterface
  cases artifacts.openApi.document? with
  | none => simp
  | some document =>
      have hpaths := nodup_undescribedPaths .openApi document.canonical_schemas
      simp only [Option.some.injEq, forall_eq']
      exact nodup_map_undescribedField_iff hpaths

theorem nodup_unexampledModels (version : VersionTag) (family : Family)
    (artifacts : FamilyArtifacts) : (unexampledModels version family artifacts).Nodup := by
  unfold unexampledModels
  split
  · rename_i document _
    rw [namesWhere, List.map_map]
    refine Members.Sorted.nodup_map (document.canonical_definitions.1.filter _) fun a b heq => ?_
    exact Option.some.inj (congrArg (·.context.model) heq)
  · exact List.nodup_nil

theorem nodup_unexampledObjects (version : VersionTag) (family : Family)
    (artifacts : FamilyArtifacts) : (unexampledObjects version family artifacts).Nodup := by
  unfold unexampledObjects
  split
  · rename_i document _
    rw [namesWhere, List.map_map]
    refine Members.Sorted.nodup_map (document.canonical_schemas.1.filter _) fun a b heq => ?_
    exact Option.some.inj (congrArg (·.context.schema) heq)
  · exact List.nodup_nil

theorem nodup_familyExamples (library : SchemaLibrary) (config : Config) (version : VersionTag)
    (family : Family) (artifacts : FamilyArtifacts) :
    (familyExamples library config version family artifacts).Nodup := by
  unfold familyExamples
  split
  · rename_i document examples _ _
    refine (pairwise_violatedExamples (Oracle.remembers_ofDocument document _)
      examples.root.canonical.1).imp ?_
    rintro a _ ⟨first, second, hfirst, hsecond, hlt⟩ rfl
    rw [Option.some.inj (hfirst.symm.trans hsecond)] at hlt
    exact String.lt_irrefl _ hlt
  · exact List.nodup_singleton _
  · exact List.nodup_nil
  · exact List.nodup_nil

theorem nodup_requiredFields (value : Json) : (requiredFields value).Nodup := by
  unfold requiredFields
  split
  · exact (List.mergeSort_perm _ _).nodup_iff.2 (nodup_eraseDups _)
  · exact List.nodup_nil

theorem nodup_driftOf (version : VersionTag) (family : Family) (name : String)
    (inSchema inOpenApi : Json) : (driftOf version family name inSchema inOpenApi).Nodup := by
  have hside : ∀ (requires omits : ArtifactKind) {fields : List String}, fields.Nodup →
      (fields.map (oneSided version family name requires omits)).Nodup := by
    intro requires omits fields hfields
    refine (List.nodup_map_iff fun a b heq => ?_).2 hfields
    exact Option.some.inj (congrArg (·.context.field) heq)
  refine List.nodup_append'.2 ⟨hside _ _ ((nodup_requiredFields inSchema).filter _),
    hside _ _ ((nodup_requiredFields inOpenApi).filter _), ?_⟩
  -- The two sides name different artifacts.
  intro finding hours htheirs
  obtain ⟨_, -, rfl⟩ := List.mem_map.1 hours
  obtain ⟨_, -, heq⟩ := List.mem_map.1 htheirs
  cases congrArg (·.context.artifact) heq

theorem schema_of_mem_driftOf {name : String} {inSchema inOpenApi : Json} {finding : Finding}
    (h : finding ∈ driftOf version family name inSchema inOpenApi) :
    finding.context.schema = some name := by
  rcases List.mem_append.1 h with h | h
  · obtain ⟨_, -, rfl⟩ := List.mem_map.1 h
    rfl
  · obtain ⟨_, -, rfl⟩ := List.mem_map.1 h
    rfl

theorem nodup_familyDrift (version : VersionTag) (family : Family) (artifacts : FamilyArtifacts) :
    (familyDrift version family artifacts).Nodup := by
  unfold familyDrift
  split
  · rename_i schema interface _ _
    refine List.nodup_flatMap.2 ⟨?_, schema.canonical_definitions.1.imp ?_⟩
    · rintro ⟨name, value⟩ -
      dsimp only
      split
      · exact nodup_driftOf _ _ _ _ _
      · exact List.nodup_nil
    · rintro ⟨name, value⟩ ⟨other, value'⟩ hlt finding hfound hfound'
      dsimp only at hfound hfound'
      split at hfound
      · split at hfound'
        · have hname := schema_of_mem_driftOf hfound
          rw [schema_of_mem_driftOf hfound'] at hname
          rw [Option.some.inj hname] at hlt
          exact String.lt_irrefl _ hlt
        · cases hfound'
      · cases hfound
  · exact List.nodup_nil

end Rule

end SpecLint
