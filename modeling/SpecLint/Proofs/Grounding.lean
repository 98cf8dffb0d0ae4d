import SpecLint.BuiltIn
import SpecLint.Proofs.Conformance
import SpecLint.Proofs.Undescribed

/-!
Nothing is made up: what a finding names is there. Rules take names from documents, from the
configuration and from routes, so each of them has to see to it that what it names stands in the
family of which it speaks. `Rule.Says` lists all that a run can say of a family, in five forms, each
with what makes it true; `Pass.says_of_mem` goes through the passes once to show that they say
nothing else. What a finding names, and when it is only a warning, is read off the five forms
(`findings_grounded`).
-/

namespace SpecLint

open Conformance Rule Schema

/-- The rule that looks whether artifacts of a kind can be read. -/
def ArtifactKind.syntaxRule? : ArtifactKind → Option RuleId
  | .jsonSchema => some .jsonSchemaSyntax
  | .openApi => some .openApiSyntax
  | .examples => none

/-! ### What there is in a family -/

def Requires (definition : Json) (field : String) : Prop :=
  ∃ node, Node.ofJson? definition = some node ∧ field ∈ node.required

theorem Rule.mem_requiredFields_iff {definition : Json} {field : String} :
    field ∈ requiredFields definition ↔ Requires definition field := by
  unfold requiredFields Requires
  cases Node.ofJson? definition <;> simp

/-- How grave it is that there is no document. -/
def Artifact.problem? {α : Type} : Artifact α → Option Severity
  | .parsed _ => none
  | .missing => some .warning
  | .malformed _ => some .error

namespace FamilyArtifacts

variable {artifacts : FamilyArtifacts} {name : String}

def problem? (artifacts : FamilyArtifacts) : ArtifactKind → Option Severity
  | .jsonSchema => artifacts.jsonSchema.problem?
  | .openApi => artifacts.openApi.problem?
  | .examples => artifacts.examples.problem?

def isMissing (artifacts : FamilyArtifacts) : ArtifactKind → Bool
  | .jsonSchema => artifacts.jsonSchema.isMissing
  | .openApi => artifacts.openApi.isMissing
  | .examples => artifacts.examples.isMissing

/-- The definition to which a name refers: beside an interface one of its schemas, beside a schema
or examples one of the definitions of the schema. -/
def definition? (artifacts : FamilyArtifacts) (kind : ArtifactKind) (name : String) :
    Option Json :=
  match kind with
  | .openApi => artifacts.openApi.document?.bind (·.schema? name)
  | .jsonSchema | .examples => artifacts.jsonSchema.document?.bind (·.definition? name)

def example? (artifacts : FamilyArtifacts) (name : String) : Option Json :=
  artifacts.examples.document?.bind (·.get? name)

/-- By the definitions of a name, a field is required in one of schema and interface and not in the
other. -/
structure Drifts (artifacts : FamilyArtifacts) (name field : String)
    (requires omits : ArtifactKind) : Prop where
  kinds : requires = .jsonSchema ∧ omits = .openApi ∨ requires = .openApi ∧ omits = .jsonSchema
  required : ∃ definition, artifacts.definition? requires name = some definition ∧
    Requires definition field
  omitted : ∃ definition, artifacts.definition? omits name = some definition ∧
    ¬Requires definition field

theorem definition?_of_mem_definitions {document : JsonSchemaDocument} {value : Json}
    (hdocument : artifacts.jsonSchema.document? = some document)
    (hmem : (name, value) ∈ document.definitions) :
    artifacts.definition? .jsonSchema name = some value := by
  rw [definition?, hdocument]
  exact Members.get?_of_mem document.canonical_definitions.1 hmem

theorem definition?_of_mem_schemas {document : OpenApiDocument} {value : Json}
    (hdocument : artifacts.openApi.document? = some document)
    (hmem : (name, value) ∈ document.schemas) :
    artifacts.definition? .openApi name = some value := by
  rw [definition?, hdocument]
  exact Members.get?_of_mem document.canonical_schemas.1 hmem

theorem problem?_of_definition? {kind : ArtifactKind} (hkind : kind ≠ .examples)
    (h : (artifacts.definition? kind name).isSome = true) : artifacts.problem? kind = none := by
  obtain ⟨schema, interface, examples⟩ := artifacts
  cases kind with
  | jsonSchema => cases schema <;> first | rfl | cases h
  | openApi => cases interface <;> first | rfl | cases h
  | examples => exact absurd rfl hkind

theorem problem?_of_example? (h : (artifacts.example? name).isSome = true) :
    artifacts.problem? .examples = none := by
  obtain ⟨schema, interface, examples⟩ := artifacts
  cases examples <;> first | rfl | cases h

theorem isMissing_of_problem? {kind : ArtifactKind} (h : artifacts.problem? kind = none) :
    artifacts.isMissing kind = false := by
  obtain ⟨schema, interface, examples⟩ := artifacts
  cases kind with
  | jsonSchema => cases schema <;> first | rfl | cases h
  | openApi => cases interface <;> first | rfl | cases h
  | examples => cases examples <;> first | rfl | cases h

theorem Drifts.requires_ne {field : String} {requires omits : ArtifactKind}
    (h : artifacts.Drifts name field requires omits) : requires ≠ .examples := by
  obtain ⟨⟨rfl, -⟩ | ⟨rfl, -⟩, -, -⟩ := h <;> decide

theorem Drifts.definition?_isSome {field : String} {requires omits : ArtifactKind}
    (h : artifacts.Drifts name field requires omits) (kind : ArtifactKind) :
    (artifacts.definition? kind name).isSome = true := by
  obtain ⟨⟨rfl, rfl⟩ | ⟨rfl, rfl⟩, ⟨_, hrequires, -⟩, ⟨_, homits, -⟩⟩ := h
  · cases kind with
    | jsonSchema | examples => exact Option.isSome_of_eq_some hrequires
    | openApi => exact Option.isSome_of_eq_some homits
  · cases kind with
    | jsonSchema | examples => exact Option.isSome_of_eq_some homits
    | openApi => exact Option.isSome_of_eq_some hrequires

end FamilyArtifacts

/-! ### What can be said of a family -/

def Finding.NamesDefinition (finding : Finding) (name : String) : Prop :=
  finding.context.schema = some name ∨ finding.context.model = some name

/-- The finding is an error in one definition of a schema or of an interface. -/
structure Finding.IsErrorIn (finding : Finding) (kind : ArtifactKind) (name : String) : Prop where
  severity_eq : finding.severity = .error
  rule_ne : finding.rule ≠ .requiredConsistency
  artifact_eq : finding.context.artifact = some kind
  kind_ne : kind ≠ .examples
  names : finding.context.schema = some name ∧ finding.context.model = none ∨
    finding.context.schema = none ∧ finding.context.model = some name
  example_eq : finding.context.exampleName = none

theorem Finding.IsErrorIn.eq_of_namesDefinition {finding : Finding} {kind : ArtifactKind}
    {name other : String} (h : finding.IsErrorIn kind name)
    (hother : finding.NamesDefinition other) : other = name := by
  rcases h.names with ⟨hschema, hmodel⟩ | ⟨hschema, hmodel⟩ <;>
    simpa [NamesDefinition, hschema, hmodel, eq_comm] using hother

namespace Rule

variable {config : Config} {version : VersionTag} {family : Family} {artifacts : FamilyArtifacts}
  {finding : Finding}

/-- What a run can say of a family with these artifacts. -/
inductive Says (version : VersionTag) (family : Family) (artifacts : FamilyArtifacts) :
    Finding → Prop where
  /-- What is wrong with a schema or an interface as a file. -/
  | state {kind : ArtifactKind} {rule : RuleId} {severity : Severity} {message : String}
      (hrule : kind.syntaxRule? = some rule)
      (hseverity : severity = .warning ↔ artifacts.isMissing kind = true) :
      Says version family artifacts
        ⟨rule, severity, message, Context.ofArtifact version family kind⟩
  | definition {kind : ArtifactKind} {name : String} {finding : Finding}
      (hdefined : (artifacts.definition? kind name).isSome = true)
      (herror : finding.IsErrorIn kind name) : Says version family artifacts finding
  | unreadable {error : DocumentError} {message : String}
      (hexamples : artifacts.examples = .malformed error) :
      Says version family artifacts
        (.error .exampleConformance message (Context.ofArtifact version family .examples))
  | violation {definition name : String} {violations : List Violation}
      (hdefined : (artifacts.definition? .examples definition).isSome = true)
      (hexample : (artifacts.example? name).isSome = true) :
      Says version family artifacts (violatedExample version family definition name violations)
  | drift {name field : String} {requires omits : ArtifactKind}
      (hdrifts : artifacts.Drifts name field requires omits) :
      Says version family artifacts (oneSided version family name requires omits field)

theorem says_jsonSchemaState (h : finding ∈ jsonSchemaState version family artifacts) :
    Says version family artifacts finding := by
  obtain ⟨severity, message, hseverity, rfl⟩ := eq_of_mem_jsonSchemaState h
  exact .state rfl hseverity

theorem says_openApiState (h : finding ∈ openApiState version family artifacts) :
    Says version family artifacts finding := by
  obtain ⟨severity, message, hseverity, rfl⟩ := eq_of_mem_openApiState h
  exact .state rfl hseverity

theorem says_of_mem_definitions {document : JsonSchemaDocument} {name : String} {value : Json}
    (hdocument : artifacts.jsonSchema.document? = some document)
    (hmem : (name, value) ∈ document.definitions) (h : finding.IsErrorIn .jsonSchema name) :
    Says version family artifacts finding := by
  refine .definition ?_ h
  rw [FamilyArtifacts.definition?_of_mem_definitions hdocument hmem]
  rfl

theorem says_of_mem_schemas {document : OpenApiDocument} {name : String} {value : Json}
    (hdocument : artifacts.openApi.document? = some document)
    (hmem : (name, value) ∈ document.schemas) (h : finding.IsErrorIn .openApi name) :
    Says version family artifacts finding := by
  refine .definition ?_ h
  rw [FamilyArtifacts.definition?_of_mem_schemas hdocument hmem]
  rfl

theorem says_prohibitedInFamily (h : finding ∈ prohibitedInFamily config version family artifacts) :
    Says version family artifacts finding := by
  unfold prohibitedInFamily at h
  split at h
  · rename_i document hdocument
    -- The table of the configuration proposes the names, the schema has the last word.
    obtain ⟨name, hname, rfl⟩ := List.mem_map.1 h
    have hdefined : document.hasDefinition name = true := (List.mem_filter.1 hname).2
    obtain ⟨value, hvalue⟩ := Option.isSome_iff_exists.1 hdefined
    exact says_of_mem_definitions hdocument (Members.mem_of_get? hvalue)
      ⟨rfl, nofun, rfl, nofun, Or.inl ⟨rfl, rfl⟩, rfl⟩
  · cases h

theorem says_schemaAmounts (h : finding ∈ schemaAmounts config version family artifacts) :
    Says version family artifacts finding := by
  obtain ⟨_, _, _, _, _, hdocument, hmem, rfl⟩ := eq_of_mem_schemaAmounts h
  exact says_of_mem_definitions hdocument hmem
    ⟨rfl, nofun, rfl, nofun, Or.inl ⟨rfl, rfl⟩, rfl⟩

theorem says_interfaceAmounts (h : finding ∈ interfaceAmounts config version family artifacts) :
    Says version family artifacts finding := by
  obtain ⟨_, _, _, _, _, hdocument, hmem, rfl⟩ := eq_of_mem_interfaceAmounts h
  exact says_of_mem_schemas hdocument hmem
    ⟨rfl, nofun, rfl, nofun, Or.inl ⟨rfl, rfl⟩, rfl⟩

theorem says_undescribedInSchema (h : finding ∈ undescribedInSchema version family artifacts) :
    Says version family artifacts finding := by
  unfold undescribedInSchema at h
  split at h
  · rename_i document hdocument
    rcases List.mem_append.1 h with h | h
    · obtain ⟨⟨name, value⟩, hmodel, rfl⟩ := List.mem_map.1 h
      exact says_of_mem_definitions hdocument (List.mem_filter.1 hmodel).1
        ⟨rfl, nofun, rfl, nofun, Or.inr ⟨rfl, rfl⟩, rfl⟩
    · obtain ⟨path, hpath, rfl⟩ := List.mem_map.1 h
      obtain ⟨value, hmem, -⟩ :=
        (mem_undescribedPaths_iff document.canonical_definitions).1 hpath
      exact says_of_mem_definitions hdocument hmem
        ⟨rfl, nofun, rfl, nofun, Or.inl ⟨rfl, rfl⟩, rfl⟩
  · cases h

theorem says_undescribedInInterface
    (h : finding ∈ undescribedInInterface version family artifacts) :
    Says version family artifacts finding := by
  unfold undescribedInInterface at h
  split at h
  · rename_i document hdocument
    obtain ⟨path, hpath, rfl⟩ := List.mem_map.1 h
    obtain ⟨value, hmem, -⟩ := (mem_undescribedPaths_iff document.canonical_schemas).1 hpath
    exact says_of_mem_schemas hdocument hmem
      ⟨rfl, nofun, rfl, nofun, Or.inl ⟨rfl, rfl⟩, rfl⟩
  · cases h

theorem exists_mem_of_mem_namesWhere {condition : Node → Bool} {definitions : Members}
    {name : String} (h : name ∈ namesWhere condition definitions) :
    ∃ value, (name, value) ∈ definitions := by
  obtain ⟨⟨_, value⟩, hmem, rfl⟩ := List.mem_map.1 h
  exact ⟨value, (List.mem_filter.1 hmem).1⟩

theorem says_unexampledModels (h : finding ∈ unexampledModels version family artifacts) :
    Says version family artifacts finding := by
  unfold unexampledModels at h
  split at h
  · rename_i hdocument
    obtain ⟨name, hname, rfl⟩ := List.mem_map.1 h
    obtain ⟨value, hmem⟩ := exists_mem_of_mem_namesWhere hname
    exact says_of_mem_definitions hdocument hmem
      ⟨rfl, nofun, rfl, nofun, Or.inr ⟨rfl, rfl⟩, rfl⟩
  · cases h

theorem says_unexampledObjects (h : finding ∈ unexampledObjects version family artifacts) :
    Says version family artifacts finding := by
  unfold unexampledObjects at h
  split at h
  · rename_i hdocument
    obtain ⟨name, hname, rfl⟩ := List.mem_map.1 h
    obtain ⟨value, hmem⟩ := exists_mem_of_mem_namesWhere hname
    exact says_of_mem_schemas hdocument hmem
      ⟨rfl, nofun, rfl, nofun, Or.inl ⟨rfl, rfl⟩, rfl⟩
  · cases h

theorem says_familyExamples {library : SchemaLibrary}
    (h : finding ∈ familyExamples library config version family artifacts) :
    Says version family artifacts finding := by
  unfold familyExamples at h
  split at h
  · rename_i document examples hdocument hexamples
    obtain ⟨name, payload, definition, violations, hmem, hrefuses, rfl⟩ :=
      mem_violatedExamples_iff.1 h
    -- A route may lead to any name, but only a definition that is there refuses anything.
    have hexample : artifacts.example? name = some payload := by
      rw [FamilyArtifacts.example?, hexamples]
      exact Members.get?_of_mem examples.root.canonical.1 hmem
    have hdefined :
        artifacts.definition? .examples definition = document.definition? definition := by
      rw [FamilyArtifacts.definition?, hdocument]
      rfl
    exact .violation (hdefined ▸ hrefuses.defined) (Option.isSome_of_eq_some hexample)
  · rename_i hexamples
    rw [List.mem_singleton.1 h]
    exact .unreadable hexamples
  · cases h
  · cases h

theorem says_familyDrift (h : finding ∈ familyDrift version family artifacts) :
    Says version family artifacts finding := by
  obtain ⟨schema, interface, name, value, other, field, hschema, hinterface, hmem, hother, h⟩ :=
    eq_oneSided_of_mem_familyDrift h
  have hours := FamilyArtifacts.definition?_of_mem_definitions hschema hmem
  have htheirs := FamilyArtifacts.definition?_of_mem_schemas hinterface (Members.mem_of_get? hother)
  rcases h with ⟨hrequired, homitted, rfl⟩ | ⟨hrequired, homitted, rfl⟩
  · exact .drift ⟨Or.inl ⟨rfl, rfl⟩, ⟨value, hours, mem_requiredFields_iff.1 hrequired⟩,
      ⟨other, htheirs, fun h => homitted (mem_requiredFields_iff.2 h)⟩⟩
  · exact .drift ⟨Or.inr ⟨rfl, rfl⟩, ⟨other, htheirs, mem_requiredFields_iff.1 hrequired⟩,
      ⟨value, hours, fun h => homitted (mem_requiredFields_iff.2 h)⟩⟩

end Rule

/-- The passes say nothing else of a family. -/
theorem Pass.says_of_mem {library : SchemaLibrary} {config : Config} {pass : Pass}
    (hpass : pass ∈ all library config) {version : VersionTag} {family : Family}
    {artifacts : FamilyArtifacts} {finding : Finding}
    (h : finding ∈ pass.inFamily version family artifacts) :
    Rule.Says version family artifacts finding := by
  cases hpass using all_cases with
  | schemaSyntax => exact Rule.says_jsonSchemaState h
  | interfaceSyntax => exact Rule.says_openApiState h
  | prohibited => exact Rule.says_prohibitedInFamily h
  | schemaAmounts => exact Rule.says_schemaAmounts h
  | interfaceAmounts => exact Rule.says_interfaceAmounts h
  | schemaDescriptions => exact Rule.says_undescribedInSchema h
  | modelExamples => exact Rule.says_unexampledModels h
  | interfaceDescriptions => exact Rule.says_undescribedInInterface h
  | objectExamples => exact Rule.says_unexampledObjects h
  | conformance => exact Rule.says_familyExamples h
  | required => exact Rule.says_familyDrift h

/-! ### What follows for a finding -/

/-- The finding names an artifact of which there is no file. -/
def Finding.NamesMissing (finding : Finding) (artifacts : FamilyArtifacts) : Prop :=
  ∃ kind, finding.context.artifact = some kind ∧ artifacts.isMissing kind = true

/-- The finding names a field on which schema and interface disagree, and the one that requires
it. -/
structure Finding.NamesDrift (finding : Finding) (artifacts : FamilyArtifacts) : Prop where
  rule_eq : finding.rule = .requiredConsistency
  drifts : ∃ name field requires omits, finding.context.schema = some name ∧
    finding.context.field = some field ∧ finding.context.artifact = some requires ∧
    artifacts.Drifts name field requires omits

/-- A definition stands in the artifact of a kind, and where required fields are compared in both
artifacts that have definitions. -/
structure Finding.Locates (finding : Finding) (artifacts : FamilyArtifacts) (name : String)
    (kind : ArtifactKind) : Prop where
  artifact_eq : finding.context.artifact = some kind
  defined : (artifacts.definition? kind name).isSome = true
  defined_of_requiredConsistency : finding.rule = .requiredConsistency →
    ∀ other, (artifacts.definition? other name).isSome = true

namespace Rule.Says

variable {version : VersionTag} {family : Family} {artifacts : FamilyArtifacts} {finding : Finding}
  {name : String}

theorem exists_locates (h : Says version family artifacts finding)
    (hname : finding.NamesDefinition name) : ∃ kind, finding.Locates artifacts name kind := by
  cases h with
  | state | unreadable => rcases hname with hname | hname <;> cases hname
  | @definition kind _ _ hdefined herror =>
      refine ⟨kind, herror.artifact_eq, ?_, fun hrule => absurd hrule herror.rule_ne⟩
      rw [herror.eq_of_namesDefinition hname]
      exact hdefined
  | violation hdefined hexample =>
      rcases hname with hname | hname <;> cases hname
      exact ⟨.examples, rfl, hdefined, nofun⟩
  | drift hdrifts =>
      rcases hname with hname | hname <;> cases hname
      exact ⟨_, rfl, hdrifts.definition?_isSome _, fun _ => hdrifts.definition?_isSome⟩

theorem example?_isSome (h : Says version family artifacts finding)
    (hname : finding.context.exampleName = some name) :
    (artifacts.example? name).isSome = true := by
  cases h with
  | state | unreadable | drift => cases hname
  | definition hdefined herror => cases herror.example_eq.symm.trans hname
  | violation hdefined hexample =>
      cases hname
      exact hexample

theorem warning_iff (h : Says version family artifacts finding) :
    finding.severity = .warning ↔
      finding.NamesMissing artifacts ∨ finding.NamesDrift artifacts := by
  cases h with
  | @state kind rule severity message hrule hseverity =>
      -- Only here the severity depends on the artifact; each other form has one.
      have hne : rule ≠ .requiredConsistency := by
        rintro rfl
        cases kind <;> cases hrule
      constructor
      · exact fun hwarning => Or.inl ⟨kind, rfl, hseverity.1 hwarning⟩
      · rintro (⟨_, hkind, hmissing⟩ | hdrift)
        · cases hkind
          exact hseverity.2 hmissing
        · exact absurd hdrift.rule_eq hne
  | @definition kind _ _ hdefined herror =>
      have hread := FamilyArtifacts.isMissing_of_problem?
        (FamilyArtifacts.problem?_of_definition? herror.kind_ne hdefined)
      refine iff_of_false (by simp [herror.severity_eq]) ?_
      rintro (⟨other, hother, hmissing⟩ | hdrift)
      · obtain rfl : kind = other := Option.some.inj (herror.artifact_eq.symm.trans hother)
        cases hread.symm.trans hmissing
      · exact herror.rule_ne hdrift.rule_eq
  | unreadable hexamples =>
      refine iff_of_false nofun ?_
      rintro (⟨_, hkind, hmissing⟩ | hdrift)
      · cases hkind
        rw [FamilyArtifacts.isMissing, hexamples] at hmissing
        cases hmissing
      · cases hdrift.rule_eq
  | violation hdefined hexample =>
      have hread := FamilyArtifacts.isMissing_of_problem?
        (FamilyArtifacts.problem?_of_example? hexample)
      refine iff_of_false nofun ?_
      rintro (⟨_, hkind, hmissing⟩ | hdrift)
      · cases hkind
        cases hread.symm.trans hmissing
      · cases hdrift.rule_eq
  | drift hdrifts => exact iff_of_true rfl (Or.inr ⟨rfl, _, _, _, _, rfl, rfl, rfl, hdrifts⟩)

end Rule.Says

/-! ### A full run -/

/-- The artifacts of which a finding speaks, as an entry has them. -/
def Finding.artifacts? (finding : Finding) (entry : VersionSnapshot) : Option FamilyArtifacts :=
  finding.context.spec.bind entry.families.get?

/-- The finding says that the version of an entry is absent, and so it is. -/
def Finding.SaysAbsent (finding : Finding) (entry : VersionSnapshot) : Prop :=
  entry.present = false ∧ finding = absentVersion entry.version

/-- Whatever a finding names is there in an entry, and the finding is as grave as what it says. -/
structure Finding.IsGrounded (finding : Finding) (entry : VersionSnapshot) : Prop where
  version_eq : finding.context.version = some entry.version
  spec_eq_none_iff : finding.context.spec = none ↔ finding.SaysAbsent entry
  spec : ∀ family, finding.context.spec = some family → (entry.families.get? family).isSome = true
  definition : ∀ name, finding.NamesDefinition name →
    ∃ artifacts kind, finding.artifacts? entry = some artifacts ∧
      finding.Locates artifacts name kind
  exampleName : ∀ name, finding.context.exampleName = some name →
    ∃ artifacts, finding.artifacts? entry = some artifacts ∧
      (artifacts.example? name).isSome = true
  warning_iff : finding.severity = .warning ↔ finding.SaysAbsent entry ∨
    ∃ artifacts, finding.artifacts? entry = some artifacts ∧
      (finding.NamesMissing artifacts ∨ finding.NamesDrift artifacts)

section

variable {library : SchemaLibrary} {config : Config} {snapshot : CorpusSnapshot}
  {entry : VersionSnapshot} {pass : Pass} {finding : Finding}

theorem isGrounded_absentVersion (h : entry.present = false) :
    (absentVersion entry.version).IsGrounded entry where
  version_eq := rfl
  spec_eq_none_iff := iff_of_true rfl ⟨h, rfl⟩
  spec := nofun
  definition name hname := by rcases hname with hname | hname <;> cases hname
  exampleName := nofun
  warning_iff := iff_of_true rfl (Or.inl ⟨h, rfl⟩)

theorem Rule.Says.isGrounded {family : Family} {artifacts : FamilyArtifacts}
    (h : Says entry.version family artifacts finding)
    (habout : finding.IsAbout entry.version family)
    (hfamily : entry.families.get? family = some artifacts) : finding.IsGrounded entry := by
  obtain ⟨hversion, hspec⟩ := habout
  -- An entry has each family once, so the artifacts that it has are those of which was spoken.
  have hartifacts : finding.artifacts? entry = some artifacts := by
    rw [Finding.artifacts?, hspec, Option.bind_some, hfamily]
  have hpresent : ¬finding.SaysAbsent entry := by
    rintro ⟨-, rfl⟩
    cases hspec
  refine ⟨hversion, iff_of_false (by simp [hspec]) hpresent, ?_, ?_, ?_, ?_⟩
  · intro other hother
    obtain rfl : family = other := Option.some.inj (hspec.symm.trans hother)
    exact Option.isSome_of_eq_some hfamily
  · intro name hname
    obtain ⟨kind, hkind⟩ := h.exists_locates hname
    exact ⟨artifacts, kind, hartifacts, hkind⟩
  · intro name hname
    exact ⟨artifacts, hartifacts, h.example?_isSome hname⟩
  · simp only [h.warning_iff, hpresent, false_or, hartifacts, Option.some.injEq, exists_eq_left']

theorem Pass.isGrounded_of_mem (hpass : pass ∈ all library config) (h : finding ∈ pass.inEntry entry) :
    finding.IsGrounded entry := by
  rw [inEntry_eq] at h
  split at h
  · obtain ⟨row, hrow, hfound⟩ := List.mem_flatMap.1 h
    exact (says_of_mem hpass hfound).isGrounded (pass.isBy hfound).about
      (FamilyTable.get?_eq_some_iff.2 hrow)
  · rename_i hvisits
    obtain ⟨-, habsent⟩ := Classical.not_imp.1 hvisits
    rw [List.mem_singleton.1 h]
    exact isGrounded_absentVersion (Bool.eq_false_of_not_eq_true habsent)

end

/-- Every finding of a run comes from the rule whose name it bears and from no other, and is
grounded in an entry of the snapshot. -/
theorem findings_grounded (library : SchemaLibrary) (config : Config) (snapshot : CorpusSnapshot)
    {finding : Finding} (h : finding ∈ ((Linter.standard library config).run snapshot).findings) :
    (∃ rule ∈ Rule.all library, finding ∈ rule.check snapshot config) ∧
      (∀ rule ∈ Rule.all library, finding ∈ rule.check snapshot config ↔ finding.rule = rule.id) ∧
      ∃ entry ∈ snapshot.versions, finding.IsGrounded entry := by
  refine ⟨?_, fun rule hrule => Pass.mem_check_iff h hrule, ?_⟩
  · rw [((Linter.standard library config).holds_run snapshot).findings_eq] at h
    exact List.mem_flatMap.1 h
  · rw [Pass.findings_standard] at h
    obtain ⟨pass, hpass, h⟩ := List.mem_flatMap.1 h
    obtain ⟨entry, hentry, h⟩ := List.mem_flatMap.1 h
    exact ⟨entry, Pass.mem_versions_of_mem_entries hentry, Pass.isGrounded_of_mem hpass h⟩

def cartSchema : JsonSchemaDocument :=
  ⟨[("$defs", .object [("Cart", .object [("required", .array [.string "id"])])])], by
    simp [Json.Canonical, Json.CanonicalMembers, Json.CanonicalItems, Members.Sorted]⟩

def cartInterface : OpenApiDocument :=
  ⟨[("components", .object [("schemas", .object [("Cart", .object [])])])], by
    simp [Json.Canonical, Json.CanonicalMembers, Members.Sorted]⟩

/-- Schema and interface disagree about carts. -/
theorem findings_grounded_cart :
    let artifacts : FamilyArtifacts := ⟨.parsed cartSchema, .parsed cartInterface, .missing⟩
    let entry : VersionSnapshot :=
      ⟨.unreleased, true, FamilyTable.empty.insert .agenticCheckout artifacts⟩
    let finding := oneSided .unreleased .agenticCheckout "Cart" .jsonSchema .openApi "id"
    finding ∈ ((Linter.standard .builtIn .standard).run ⟨[entry]⟩).findings ∧
      finding ∈ Rule.requiredConsistency.check ⟨[entry]⟩ .standard ∧
      finding.IsGrounded entry := by
  intro artifacts entry finding
  have hmem : finding ∈ ((Linter.standard .builtIn .standard).run ⟨[entry]⟩).findings := by
    decide +kernel
  obtain ⟨-, hrules, other, hother, hgrounded⟩ :=
    findings_grounded .builtIn .standard ⟨[entry]⟩ hmem
  rw [List.mem_singleton.1 hother] at hgrounded
  exact ⟨hmem, (hrules .requiredConsistency (by simp [Rule.all])).2 rfl, hgrounded⟩

end SpecLint
