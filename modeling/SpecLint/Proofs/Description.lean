import SpecLint.Proofs.Place
import SpecLint.Proofs.Schema.Exemption
import SpecLint.Proofs.Undescribed

/-!
Descriptions in the version that is still edited. Two rules go through the definitions of a family
and walk over each of them; what they find is told by what stands in the definitions. `ListsModels`
and `ListsFields` say of a list of names and of a list of paths that it holds everything without a
description, in order: a definition that is an object and not described, and a path that leads from
a definition to a node that needs a description. The rules differ in which nodes these are
(`CoversSchema`, `CoversInterface`), and neither looks at more than the first entry of that version.
-/

namespace SpecLint

open Rule Schema

namespace FamilyArtifacts

/-- The names of the definitions of a schema that are objects and not described, each once. -/
structure ListsModels (artifacts : FamilyArtifacts) (names : List String) : Prop where
  ordered : names.Pairwise (· < ·)
  nodup : names.Nodup
  mem_iff : ∀ name, name ∈ names ↔
    ∃ node, (artifacts.definition? .jsonSchema name).bind Node.ofJson? = some node ∧
      ¬node.IsDescribed

/-- The paths that lead from a definition to a node that is wanted, each once. -/
structure ListsFields (artifacts : FamilyArtifacts) (kind : ArtifactKind)
    (wanted : Node → FieldPath → Prop) (paths : List FieldPath) : Prop where
  ordered : paths.Pairwise FieldPath.ComesBefore
  nodup : paths.Nodup
  mem_iff : ∀ path, path ∈ paths ↔
    ∃ definition node, artifacts.definition? kind path.label = some definition ∧
      path.resolve? definition = some node ∧ wanted node path

theorem listsFields_undescribedPaths (artifacts : FamilyArtifacts) (kind : ArtifactKind)
    (options : WalkOptions) :
    artifacts.ListsFields kind (fun node path => node.IsUndescribed ∧ ¬options.Skips node path)
      (undescribedPaths options (artifacts.definitions kind)) := by
  have hcanonical := artifacts.canonical_definitions kind
  refine ⟨pairwise_undescribedPaths options hcanonical, nodup_undescribedPaths options hcanonical,
    fun path => ?_⟩
  simp only [mem_undescribedPaths_iff hcanonical, mem_definitions_iff, Option.map_eq_some_iff,
    lacksDescription_iff, exists_and_left]

/-- The names of some definitions that are objects and not described. -/
def undescribedNames (definitions : Members) : List String :=
  (definitions.filter fun (_, value) =>
    (Node.ofJson? value).any fun node => node.description?.isNone).map Prod.fst

theorem listsModels_undescribedNames (artifacts : FamilyArtifacts) :
    artifacts.ListsModels (undescribedNames (artifacts.definitions .jsonSchema)) := by
  have hordered : (undescribedNames (artifacts.definitions .jsonSchema)).Pairwise (· < ·) :=
    List.pairwise_map.2 ((artifacts.canonical_definitions .jsonSchema).1.filter _)
  refine ⟨hordered, hordered.nodup, fun name => ?_⟩
  have hdescribed : ∀ node : Node, node.description?.isNone = true ↔ ¬node.IsDescribed := by
    intro node
    rw [← Node.isSome_description?_iff, ← Option.not_isSome, Bool.not_eq_true',
      Bool.not_eq_true]
  simp only [undescribedNames, List.mem_map, List.mem_filter, Prod.exists, exists_and_right,
    exists_eq_right, mem_definitions_iff, Option.any_eq_true, hdescribed,
    Option.bind_eq_some_iff]
  constructor
  · rintro ⟨definition, hdefinition, node, hnode, hnot⟩
    exact ⟨node, ⟨definition, hdefinition, hnode⟩, hnot⟩
  · rintro ⟨node, ⟨definition, hdefinition, hnode⟩, hnot⟩
    exact ⟨definition, hdefinition, node, hnode, hnot⟩

end FamilyArtifacts

/-! ### The rules -/

namespace Rule

/-- The finding about a definition without a description. -/
def undescribedModel (context : Context) (name : String) : Finding :=
  .error .fieldDescription ("Model " ++ inQuotes name ++ " is missing a description")
    { context with model := some name }

/-- The findings are about the definitions of a schema that are objects and not described, and then
about the nodes below definitions that need a description. -/
def CoversSchema (version : VersionTag) (family : Family) (artifacts : FamilyArtifacts)
    (findings : List Finding) : Prop :=
  ∃ names paths, artifacts.ListsModels names ∧
    artifacts.ListsFields .jsonSchema (fun node _ => node.IsUndescribed) paths ∧
    findings = names.map (undescribedModel (Context.ofArtifact version family .jsonSchema)) ++
      paths.map (undescribedField .fieldDescription "Field is missing description: "
        (Context.ofArtifact version family .jsonSchema))

/-- The findings are about the nodes below the schemas of an interface that need a description and
are no references; of the schemas themselves there are none. -/
def CoversInterface (version : VersionTag) (family : Family) (artifacts : FamilyArtifacts)
    (findings : List Finding) : Prop :=
  ∃ paths, artifacts.ListsFields .openApi
      (fun node path => node.IsUndescribed ∧ path.segments ≠ [] ∧
        ∀ target, node.get? "$ref" ≠ some (.string target)) paths ∧
    findings = paths.map (undescribedField .openApiDescription
      "OpenAPI field is missing description: " (Context.ofArtifact version family .openApi))

theorem coversSchema_undescribedInSchema (version : VersionTag) (family : Family)
    (artifacts : FamilyArtifacts) :
    CoversSchema version family artifacts (undescribedInSchema version family artifacts) := by
  have hfields := artifacts.listsFields_undescribedPaths .jsonSchema .jsonSchema
  have hskips : ∀ node path, ¬WalkOptions.jsonSchema.Skips node path := by
    simp [WalkOptions.Skips, WalkOptions.jsonSchema]
  simp only [hskips, not_false_eq_true, and_true] at hfields
  refine ⟨_, _, artifacts.listsModels_undescribedNames, hfields, ?_⟩
  unfold undescribedInSchema FamilyArtifacts.definitions
  cases artifacts.jsonSchema.document? with
  | none => rfl
  | some document =>
      simp only [Option.map_some, Option.getD_some, FamilyArtifacts.undescribedNames, List.map_map]
      rfl

theorem coversInterface_undescribedInInterface (version : VersionTag) (family : Family)
    (artifacts : FamilyArtifacts) :
    CoversInterface version family artifacts (undescribedInInterface version family artifacts) := by
  have hfields := artifacts.listsFields_undescribedPaths .openApi .openApi
  have hskips : ∀ (node : Node) (path : FieldPath), ¬WalkOptions.openApi.Skips node path ↔
      path.segments ≠ [] ∧ ∀ target, node.get? "$ref" ≠ some (.string target) := by
    simp [WalkOptions.Skips, WalkOptions.openApi, FieldPath.isRoot]
  simp only [hskips] at hfields
  refine ⟨_, hfields, ?_⟩
  unfold undescribedInInterface FamilyArtifacts.definitions
  cases artifacts.openApi.document? <;> rfl

theorem CoversSchema.severity_eq {version : VersionTag} {family : Family}
    {artifacts : FamilyArtifacts} {findings : List Finding}
    (h : CoversSchema version family artifacts findings) :
    ∀ finding ∈ findings, finding.severity = .error := by
  obtain ⟨names, paths, -, -, rfl⟩ := h
  intro finding hfinding
  rcases List.mem_append.1 hfinding with hfinding | hfinding
  · obtain ⟨_, -, rfl⟩ := List.mem_map.1 hfinding
    rfl
  · obtain ⟨_, -, rfl⟩ := List.mem_map.1 hfinding
    rfl

theorem CoversInterface.severity_eq {version : VersionTag} {family : Family}
    {artifacts : FamilyArtifacts} {findings : List Finding}
    (h : CoversInterface version family artifacts findings) :
    ∀ finding ∈ findings, finding.severity = .error := by
  obtain ⟨paths, -, rfl⟩ := h
  intro finding hfinding
  obtain ⟨_, -, rfl⟩ := List.mem_map.1 hfinding
  rfl

end Rule

theorem CorpusSnapshot.inUnreleased_eq_nil {config : Config} {snapshot : CorpusSnapshot}
    {found : VersionSnapshot → List Finding} (h : snapshot.version? config.unreleased = none) :
    snapshot.inUnreleased config found = [] := by
  rw [inUnreleased, h]

theorem CorpusSnapshot.inUnreleased_eq {config : Config} {snapshot : CorpusSnapshot}
    {entry : VersionSnapshot} {found : VersionSnapshot → List Finding}
    (h : snapshot.version? config.unreleased = some entry) :
    snapshot.inUnreleased config found = found entry := by
  rw [inUnreleased, h]

theorem CorpusSnapshot.inUnreleased_congr {config : Config} {snapshot other : CorpusSnapshot}
    {found : VersionSnapshot → List Finding}
    (h : other.version? config.unreleased = snapshot.version? config.unreleased) :
    other.inUnreleased config found = snapshot.inUnreleased config found := by
  rw [inUnreleased, h, inUnreleased]

theorem CorpusSnapshot.forall_mem_inUnreleased {config : Config} {snapshot : CorpusSnapshot}
    {found : VersionTag → Family → FamilyArtifacts → List Finding} {property : Finding → Prop}
    (h : ∀ version family artifacts, ∀ finding ∈ found version family artifacts, property finding) :
    ∀ finding ∈ snapshot.inUnreleased config fun entry => entry.inFamilies (found entry.version),
      property finding := by
  intro finding hfinding
  unfold inUnreleased at hfinding
  split at hfinding
  · obtain ⟨_, -, hfinding⟩ := List.mem_flatMap.1 hfinding
    exact h _ _ _ finding hfinding
  · cases hfinding

/-- The rules for descriptions look at the first entry of the version that is still edited, and find
nothing if there is none. In each family of this entry they find one error for each definition of
the schema that is an object and not described, and one for each path below a definition that leads
to a node that needs a description; in interfaces neither the schemas themselves nor references
count. Whatever else a snapshot holds makes no difference. -/
theorem description_findings_exact (config : Config) (snapshot : CorpusSnapshot) :
    (snapshot.version? config.unreleased = none →
      fieldDescription.check snapshot config = [] ∧ openApiDescription.check snapshot config = []) ∧
    (∀ entry, snapshot.version? config.unreleased = some entry →
      (∃ found, fieldDescription.check snapshot config = entry.inFamilies found ∧
        ∀ family artifacts, CoversSchema entry.version family artifacts (found family artifacts)) ∧
      ∃ found, openApiDescription.check snapshot config = entry.inFamilies found ∧
        ∀ family artifacts,
          CoversInterface entry.version family artifacts (found family artifacts)) ∧
    (∀ finding ∈ fieldDescription.check snapshot config ++ openApiDescription.check snapshot config,
      finding.severity = .error) ∧
    ∀ other : CorpusSnapshot,
      other.version? config.unreleased = snapshot.version? config.unreleased →
        fieldDescription.check other config = fieldDescription.check snapshot config ∧
        openApiDescription.check other config = openApiDescription.check snapshot config := by
  refine ⟨fun hnone => ⟨CorpusSnapshot.inUnreleased_eq_nil hnone,
    CorpusSnapshot.inUnreleased_eq_nil hnone⟩, fun entry hentry => ⟨?_, ?_⟩, ?_, fun other hother =>
    ⟨CorpusSnapshot.inUnreleased_congr hother, CorpusSnapshot.inUnreleased_congr hother⟩⟩
  · exact ⟨undescribedInSchema entry.version, CorpusSnapshot.inUnreleased_eq hentry,
      coversSchema_undescribedInSchema entry.version⟩
  · exact ⟨undescribedInInterface entry.version, CorpusSnapshot.inUnreleased_eq hentry,
      coversInterface_undescribedInInterface entry.version⟩
  · intro finding hfinding
    rcases List.mem_append.1 hfinding with hfinding | hfinding
    · exact CorpusSnapshot.forall_mem_inUnreleased (fun version family artifacts =>
        (coversSchema_undescribedInSchema version family artifacts).severity_eq) finding hfinding
    · exact CorpusSnapshot.forall_mem_inUnreleased (fun version family artifacts =>
        (coversInterface_undescribedInInterface version family artifacts).severity_eq)
        finding hfinding

/-- A cart, defined in schema and interface, that is not described. -/
def cartArtifacts : FamilyArtifacts :=
  have hcanonical : referringSchema.Canonical := Json.canonical_canonicalize referringSchema
  .ofDefinitions "Cart" referringSchema referringSchema hcanonical hcanonical

/-- A second entry of the version does not count. The cart is found in the schema, and there with
its buyer, which is a reference; in the interface its total is found. -/
theorem description_findings_exact_cart :
    let entry : VersionSnapshot :=
      ⟨.unreleased, true, FamilyTable.empty.insert .agenticCheckout cartArtifacts⟩
    let snapshot : CorpusSnapshot := ⟨[entry]⟩
    let other : CorpusSnapshot := ⟨[entry, ⟨.unreleased, false, .empty⟩]⟩
    let absent : CorpusSnapshot := ⟨[]⟩
    let schema := Context.ofArtifact .unreleased .agenticCheckout .jsonSchema
    let interface := Context.ofArtifact .unreleased .agenticCheckout .openApi
    absent.version? .unreleased = none ∧ snapshot.version? .unreleased = some entry ∧
      other.version? .unreleased = snapshot.version? .unreleased ∧
      fieldDescription.check absent .standard = [] ∧
      undescribedModel schema "Cart" ∈ fieldDescription.check other .standard ∧
      undescribedField .fieldDescription "Field is missing description: " schema
        ⟨"Cart", [.property "buyer"]⟩ ∈ fieldDescription.check other .standard ∧
      undescribedField .openApiDescription "OpenAPI field is missing description: " interface
        ⟨"Cart", [.property "total"]⟩ ∈ openApiDescription.check other .standard := by
  intro entry snapshot other absent schema interface
  obtain ⟨hnone, -⟩ := description_findings_exact .standard absent
  obtain ⟨-, hsome, -, hother⟩ := description_findings_exact .standard snapshot
  obtain ⟨hmodels, hfields⟩ := hother other rfl
  obtain ⟨⟨found, hfound, hcovers⟩, ⟨found', hfound', hcovers'⟩⟩ := hsome entry rfl
  obtain ⟨names, paths, hnames, hpaths, hfindings⟩ := hcovers .agenticCheckout cartArtifacts
  obtain ⟨paths', hpaths', hfindings'⟩ := hcovers' .agenticCheckout cartArtifacts
  -- There is one family, so that what is found in it is all.
  have hschema : fieldDescription.check other .standard =
      names.map (undescribedModel schema) ++ paths.map
        (undescribedField .fieldDescription "Field is missing description: " schema) := by
    rw [hmodels, hfound, ← List.append_nil (_ ++ _), ← hfindings]
    rfl
  have hinterface : openApiDescription.check other .standard =
      paths'.map (undescribedField .openApiDescription "OpenAPI field is missing description: "
        interface) := by
    rw [hfields, hfound', ← List.append_nil (List.map _ _), ← hfindings']
    rfl
  have hcart : "Cart" ∈ names := by
    refine (hnames.mem_iff _).2 ⟨_, rfl, ?_⟩
    rw [← Node.isSome_description?_iff]
    decide
  have hbuyer : ⟨"Cart", [.property "buyer"]⟩ ∈ paths :=
    (hpaths.mem_iff _).2 ⟨_, _, rfl, rfl, Node.isUndescribed_iff.2 (by decide)⟩
  have htotal : ⟨"Cart", [.property "total"]⟩ ∈ paths' :=
    (hpaths'.mem_iff _).2 ⟨_, _, rfl, rfl, Node.isUndescribed_iff.2 (by decide), by decide,
      fun target hget => by cases hget⟩
  refine ⟨rfl, rfl, rfl, (hnone rfl).1, ?_, ?_, ?_⟩
  · exact hschema ▸ List.mem_append_left _ (List.mem_map_of_mem hcart)
  · exact hschema ▸ List.mem_append_right _ (List.mem_map_of_mem hbuyer)
  · exact hinterface ▸ List.mem_map_of_mem htotal

end SpecLint
