import Mathlib.Data.List.Forall2
import SpecLint.Proofs.FamilyTable
import SpecLint.Proofs.Report

/-!
A full run as a list of passes. The ten rules differ in how they go through a snapshot: some look at
every entry, some only at the version that is still edited, one goes through its own table of
families, and one goes through everything twice. All of this is a matter of eleven passes, each of
which looks at the artifacts of one family of one entry at a time. A pass carries the proof that
what it finds there bears the name of its rule, of that version and of that family;
`findings_standard` says that the findings of a full run are those of the passes, one after another.
-/

namespace SpecLint

open Rule

/-- The context of the finding names a version and a family. -/
def Finding.IsAbout (finding : Finding) (version : VersionTag) (family : Family) : Prop :=
  finding.context.version = some version ∧ finding.context.spec = some family

instance (finding : Finding) (version : VersionTag) (family : Family) :
    Decidable (finding.IsAbout version family) :=
  inferInstanceAs (Decidable (_ ∧ _))

/-- The finding is one of a rule about a family of a version. -/
structure Finding.IsBy (finding : Finding) (rule : RuleId) (version : VersionTag)
    (family : Family) : Prop where
  rule_eq : finding.rule = rule
  about : finding.IsAbout version family

/-- Where a property is the same for all findings of a part, filtering findings is filtering
parts. -/
theorem filter_flatMap_of_parts {α : Type} {parts : List α} {found : α → List Finding}
    {keep : Finding → Bool} {keepPart : α → Bool}
    (h : ∀ part ∈ parts, ∀ finding ∈ found part, keep finding = keepPart part) :
    (parts.flatMap found).filter keep = (parts.filter keepPart).flatMap found := by
  induction parts with
  | nil => rfl
  | cons part parts ih =>
      obtain ⟨hpart, hparts⟩ := List.forall_mem_cons.1 h
      rw [List.flatMap_cons, List.filter_append, ih hparts, List.filter_cons]
      cases hkeep : keepPart part with
      | true =>
          have hall : (found part).filter keep = found part :=
            List.filter_eq_self.2 fun finding hfinding => (hpart finding hfinding).trans hkeep
          rw [hall, if_pos rfl, List.flatMap_cons]
      | false =>
          have hnone : (found part).filter keep = [] :=
            List.filter_eq_nil_iff.2 fun finding hfinding => by
              rw [hpart finding hfinding, hkeep]
              exact Bool.false_ne_true
          rw [hnone, List.nil_append, if_neg Bool.false_ne_true]

/-- Which entries of a snapshot a pass looks at. -/
inductive Reach where
  | everyEntry
  /-- Every entry, but of one without a directory it only says that it is absent. -/
  | presentEntries
  /-- The first entry of the version that is still edited. -/
  | unreleasedEntry
deriving DecidableEq

/-- A look at the artifacts of every family in reach. -/
structure Pass where
  rule : RuleId
  reach : Reach
  inFamily : VersionTag → Family → FamilyArtifacts → List Finding
  isBy : ∀ {version family artifacts finding}, finding ∈ inFamily version family artifacts →
    finding.IsBy rule version family

namespace Pass

/-- The entries at which a pass looks. -/
def entries (pass : Pass) (config : Config) (snapshot : CorpusSnapshot) : List VersionSnapshot :=
  match pass.reach with
  | .everyEntry | .presentEntries => snapshot.versions
  | .unreleasedEntry => (snapshot.version? config.unreleased).toList

/-- What a pass finds in an entry. -/
def inEntry (pass : Pass) (entry : VersionSnapshot) : List Finding :=
  match pass.reach, entry.present with
  | .presentEntries, false => [absentVersion entry.version]
  | _, _ => entry.inFamilies (pass.inFamily entry.version)

/-- What a pass finds in a snapshot. -/
def findings (pass : Pass) (config : Config) (snapshot : CorpusSnapshot) : List Finding :=
  (pass.entries config snapshot).flatMap pass.inEntry

end Pass

/-! ### What is found in a family

One lemma for each of the functions by which rules look at a family: everything they find there
bears the name of the rule, the version and the family. -/

namespace Rule

variable {version : VersionTag} {family : Family} {artifacts : FamilyArtifacts} {finding : Finding}

theorem eq_of_mem_jsonSchemaState (h : finding ∈ jsonSchemaState version family artifacts) :
    ∃ severity message, (severity = .warning ↔ artifacts.jsonSchema.isMissing = true) ∧ finding =
      ⟨.jsonSchemaSyntax, severity, message, Context.ofArtifact version family .jsonSchema⟩ := by
  unfold jsonSchemaState at h
  split at h
  · rename_i hread
    split at h
    · cases h
    · exact ⟨_, _, by simp [hread, Artifact.isMissing], List.mem_singleton.1 h⟩
  · rename_i hread
    exact ⟨_, _, by simp [hread, Artifact.isMissing], List.mem_singleton.1 h⟩
  · rename_i hread
    exact ⟨_, _, by simp [hread, Artifact.isMissing], List.mem_singleton.1 h⟩

theorem isBy_jsonSchemaState (h : finding ∈ jsonSchemaState version family artifacts) :
    finding.IsBy .jsonSchemaSyntax version family := by
  obtain ⟨_, _, -, rfl⟩ := eq_of_mem_jsonSchemaState h
  exact ⟨rfl, rfl, rfl⟩

theorem eq_of_mem_openApiState (h : finding ∈ openApiState version family artifacts) :
    ∃ severity message, (severity = .warning ↔ artifacts.openApi.isMissing = true) ∧ finding =
      ⟨.openApiSyntax, severity, message, Context.ofArtifact version family .openApi⟩ := by
  unfold openApiState at h
  split at h
  · rename_i hread
    split at h
    · cases h
    · exact ⟨_, _, by simp [hread, Artifact.isMissing], List.mem_singleton.1 h⟩
  · rename_i hread
    exact ⟨_, _, by simp [hread, Artifact.isMissing], List.mem_singleton.1 h⟩
  · rename_i hread
    exact ⟨_, _, by simp [hread, Artifact.isMissing], List.mem_singleton.1 h⟩

theorem isBy_openApiState (h : finding ∈ openApiState version family artifacts) :
    finding.IsBy .openApiSyntax version family := by
  obtain ⟨_, _, -, rfl⟩ := eq_of_mem_openApiState h
  exact ⟨rfl, rfl, rfl⟩

/-- The definitions in the schema of a family that the family may not have. -/
def prohibitedInFamily (config : Config) (version : VersionTag) (family : Family)
    (artifacts : FamilyArtifacts) : List Finding :=
  match artifacts.jsonSchema.document? with
  | some document => prohibitedIn version family (config.prohibitedFor family) document
  | none => []

theorem isBy_prohibitedInFamily {config : Config}
    (h : finding ∈ prohibitedInFamily config version family artifacts) :
    finding.IsBy .prohibitedSchema version family := by
  unfold prohibitedInFamily at h
  split at h
  · obtain ⟨_, -, rfl⟩ := List.mem_map.1 h
    exact ⟨rfl, rfl, rfl⟩
  · cases h

theorem eq_amountFinding_of_mem {config : Config} {kind : ArtifactKind} {definitions : Members}
    (h : finding ∈ wrongAmounts config version family kind definitions) :
    ∃ name value field property, (name, value) ∈ definitions ∧
      finding = amountFinding version family kind name field property := by
  obtain ⟨⟨name, value⟩, hmem, h⟩ := List.mem_flatMap.1 h
  dsimp only at h
  split at h
  · cases h
  · obtain ⟨⟨field, property⟩, -, rfl⟩ := List.mem_map.1 h
    exact ⟨name, value, field, property, hmem, rfl⟩

theorem eq_of_mem_schemaAmounts {config : Config}
    (h : finding ∈ schemaAmounts config version family artifacts) :
    ∃ document name value field property, artifacts.jsonSchema.document? = some document ∧
      (name, value) ∈ document.definitions ∧
      finding = amountFinding version family .jsonSchema name field property := by
  unfold schemaAmounts at h
  split at h
  · rename_i document hdocument
    obtain ⟨name, value, field, property, hmem, heq⟩ := eq_amountFinding_of_mem h
    exact ⟨document, name, value, field, property, hdocument, hmem, heq⟩
  · cases h

theorem isBy_schemaAmounts {config : Config}
    (h : finding ∈ schemaAmounts config version family artifacts) :
    finding.IsBy .amountType version family := by
  obtain ⟨_, _, _, _, _, -, -, rfl⟩ := eq_of_mem_schemaAmounts h
  exact ⟨rfl, rfl, rfl⟩

theorem eq_of_mem_interfaceAmounts {config : Config}
    (h : finding ∈ interfaceAmounts config version family artifacts) :
    ∃ document name value field property, artifacts.openApi.document? = some document ∧
      (name, value) ∈ document.schemas ∧
      finding = amountFinding version family .openApi name field property := by
  unfold interfaceAmounts at h
  split at h
  · rename_i document hdocument
    obtain ⟨name, value, field, property, hmem, heq⟩ := eq_amountFinding_of_mem h
    exact ⟨document, name, value, field, property, hdocument, hmem, heq⟩
  · cases h

theorem isBy_interfaceAmounts {config : Config}
    (h : finding ∈ interfaceAmounts config version family artifacts) :
    finding.IsBy .amountType version family := by
  obtain ⟨_, _, _, _, _, -, -, rfl⟩ := eq_of_mem_interfaceAmounts h
  exact ⟨rfl, rfl, rfl⟩

theorem isBy_undescribedInSchema (h : finding ∈ undescribedInSchema version family artifacts) :
    finding.IsBy .fieldDescription version family := by
  unfold undescribedInSchema at h
  split at h
  · rcases List.mem_append.1 h with h | h
    · obtain ⟨_, -, rfl⟩ := List.mem_map.1 h
      exact ⟨rfl, rfl, rfl⟩
    · obtain ⟨_, -, rfl⟩ := List.mem_map.1 h
      exact ⟨rfl, rfl, rfl⟩
  · cases h

theorem isBy_undescribedInInterface
    (h : finding ∈ undescribedInInterface version family artifacts) :
    finding.IsBy .openApiDescription version family := by
  unfold undescribedInInterface at h
  split at h
  · obtain ⟨_, -, rfl⟩ := List.mem_map.1 h
    exact ⟨rfl, rfl, rfl⟩
  · cases h

theorem isBy_unexampledModels (h : finding ∈ unexampledModels version family artifacts) :
    finding.IsBy .modelExample version family := by
  unfold unexampledModels at h
  split at h
  · obtain ⟨_, -, rfl⟩ := List.mem_map.1 h
    exact ⟨rfl, rfl, rfl⟩
  · cases h

theorem isBy_unexampledObjects (h : finding ∈ unexampledObjects version family artifacts) :
    finding.IsBy .openApiExample version family := by
  unfold unexampledObjects at h
  split at h
  · obtain ⟨_, -, rfl⟩ := List.mem_map.1 h
    exact ⟨rfl, rfl, rfl⟩
  · cases h

theorem eq_violatedExample_of_mem {library : SchemaLibrary} {routes : RouteTable}
    {oracle : Conformance.Oracle library} {examples : Members}
    (h : finding ∈ violatedExamples routes version family oracle examples) :
    ∃ definition name violations,
      finding = violatedExample version family definition name violations := by
  -- Whatever the oracle remembers, an example adds at most a finding of its own.
  induction examples generalizing oracle with
  | nil => cases h
  | cons entry rest ih =>
      obtain ⟨name, payload⟩ := entry
      unfold violatedExamples at h
      split at h
      · exact ih h
      · dsimp only at h
        split at h
        · split at h
          · exact ih h
          · rcases List.mem_cons.1 h with rfl | h
            · exact ⟨_, _, _, rfl⟩
            · exact ih h
        · exact ih h

theorem isBy_familyExamples {library : SchemaLibrary} {config : Config}
    (h : finding ∈ familyExamples library config version family artifacts) :
    finding.IsBy .exampleConformance version family := by
  unfold familyExamples at h
  split at h
  · obtain ⟨_, _, _, rfl⟩ := eq_violatedExample_of_mem h
    exact ⟨rfl, rfl, rfl⟩
  · obtain rfl := List.mem_singleton.1 h
    exact ⟨rfl, rfl, rfl⟩
  · cases h
  · cases h

/-- What drifts is a field that one of two definitions of a name requires and the other does not. -/
theorem eq_oneSided_of_mem_familyDrift (h : finding ∈ familyDrift version family artifacts) :
    ∃ schema interface name value other field, artifacts.jsonSchema.document? = some schema ∧
      artifacts.openApi.document? = some interface ∧ (name, value) ∈ schema.definitions ∧
      interface.schema? name = some other ∧
      (field ∈ requiredFields value ∧ field ∉ requiredFields other ∧
          finding = oneSided version family name .jsonSchema .openApi field ∨
        field ∈ requiredFields other ∧ field ∉ requiredFields value ∧
          finding = oneSided version family name .openApi .jsonSchema field) := by
  unfold familyDrift at h
  split at h
  · rename_i schema interface hschema hinterface
    obtain ⟨⟨name, value⟩, hmem, h⟩ := List.mem_flatMap.1 h
    dsimp only at h
    split at h
    · rename_i other hother
      rcases List.mem_append.1 h with h | h
      · obtain ⟨field, hfield, rfl⟩ := List.mem_map.1 h
        obtain ⟨hours, htheirs⟩ : field ∈ requiredFields value ∧ field ∉ requiredFields other := by
          simpa using hfield
        exact ⟨schema, interface, name, value, other, field, hschema, hinterface, hmem, hother,
          Or.inl ⟨hours, htheirs, rfl⟩⟩
      · obtain ⟨field, hfield, rfl⟩ := List.mem_map.1 h
        obtain ⟨htheirs, hours⟩ : field ∈ requiredFields other ∧ field ∉ requiredFields value := by
          simpa using hfield
        exact ⟨schema, interface, name, value, other, field, hschema, hinterface, hmem, hother,
          Or.inr ⟨htheirs, hours, rfl⟩⟩
    · cases h
  · cases h

theorem isBy_familyDrift (h : finding ∈ familyDrift version family artifacts) :
    finding.IsBy .requiredConsistency version family := by
  obtain ⟨_, _, _, _, _, _, -, -, -, -, ⟨-, -, rfl⟩ | ⟨-, -, rfl⟩⟩ :=
    eq_oneSided_of_mem_familyDrift h
  · exact ⟨rfl, rfl, rfl⟩
  · exact ⟨rfl, rfl, rfl⟩

end Rule

/-! ### A full run -/

namespace Pass

/-- The passes of a full run. -/
def all (library : SchemaLibrary) (config : Config) : List Pass :=
  [⟨.jsonSchemaSyntax, .presentEntries, jsonSchemaState, isBy_jsonSchemaState⟩,
    ⟨.openApiSyntax, .everyEntry, openApiState, isBy_openApiState⟩,
    ⟨.prohibitedSchema, .everyEntry, prohibitedInFamily config, isBy_prohibitedInFamily⟩,
    ⟨.amountType, .everyEntry, schemaAmounts config, isBy_schemaAmounts⟩,
    ⟨.amountType, .everyEntry, interfaceAmounts config, isBy_interfaceAmounts⟩,
    ⟨.fieldDescription, .unreleasedEntry, undescribedInSchema, isBy_undescribedInSchema⟩,
    ⟨.modelExample, .unreleasedEntry, unexampledModels, isBy_unexampledModels⟩,
    ⟨.openApiDescription, .unreleasedEntry, undescribedInInterface, isBy_undescribedInInterface⟩,
    ⟨.openApiExample, .unreleasedEntry, unexampledObjects, isBy_unexampledObjects⟩,
    ⟨.exampleConformance, .everyEntry, familyExamples library config, isBy_familyExamples⟩,
    ⟨.requiredConsistency, .everyEntry, familyDrift, isBy_familyDrift⟩]

/-- A pass of a full run is one of the eleven. -/
@[elab_as_elim]
theorem all_cases {library : SchemaLibrary} {config : Config}
    {motive : (pass : Pass) → pass ∈ all library config → Prop}
    (schemaSyntax : ∀ h, motive
      ⟨.jsonSchemaSyntax, .presentEntries, jsonSchemaState, isBy_jsonSchemaState⟩ h)
    (interfaceSyntax : ∀ h, motive ⟨.openApiSyntax, .everyEntry, openApiState, isBy_openApiState⟩ h)
    (prohibited : ∀ h, motive
      ⟨.prohibitedSchema, .everyEntry, prohibitedInFamily config, isBy_prohibitedInFamily⟩ h)
    (schemaAmounts : ∀ h, motive
      ⟨.amountType, .everyEntry, schemaAmounts config, isBy_schemaAmounts⟩ h)
    (interfaceAmounts : ∀ h, motive
      ⟨.amountType, .everyEntry, interfaceAmounts config, isBy_interfaceAmounts⟩ h)
    (schemaDescriptions : ∀ h, motive
      ⟨.fieldDescription, .unreleasedEntry, undescribedInSchema, isBy_undescribedInSchema⟩ h)
    (modelExamples : ∀ h, motive
      ⟨.modelExample, .unreleasedEntry, unexampledModels, isBy_unexampledModels⟩ h)
    (interfaceDescriptions : ∀ h, motive
      ⟨.openApiDescription, .unreleasedEntry, undescribedInInterface, isBy_undescribedInInterface⟩ h)
    (objectExamples : ∀ h, motive
      ⟨.openApiExample, .unreleasedEntry, unexampledObjects, isBy_unexampledObjects⟩ h)
    (conformance : ∀ h, motive
      ⟨.exampleConformance, .everyEntry, familyExamples library config, isBy_familyExamples⟩ h)
    (required : ∀ h, motive ⟨.requiredConsistency, .everyEntry, familyDrift, isBy_familyDrift⟩ h)
    {pass : Pass} (h : pass ∈ all library config) : motive pass h := by
  have hpass := h
  simp only [all, List.mem_cons, List.not_mem_nil, or_false] at hpass
  rcases hpass with rfl | rfl | rfl | rfl | rfl | rfl | rfl | rfl | rfl | rfl | rfl
  · exact schemaSyntax h
  · exact interfaceSyntax h
  · exact prohibited h
  · exact schemaAmounts h
  · exact interfaceAmounts h
  · exact schemaDescriptions h
  · exact modelExamples h
  · exact interfaceDescriptions h
  · exact objectExamples h
  · exact conformance h
  · exact required h

end Pass

/-- Going through the table of prohibited definitions meets the families of an entry in the order in
which going through the entry does. -/
theorem prohibited_flatMap_eq (config : Config) (entry : VersionSnapshot) :
    (config.prohibited.entries.flatMap fun (family, names) =>
      match (entry.families.get? family).bind (·.jsonSchema.document?) with
      | some document => prohibitedIn entry.version family names document
      | none => []) = entry.inFamilies (prohibitedInFamily config entry.version) := by
  have hlookup := FamilyTable.flatMap_get?_comm config.prohibited entry.families
    fun family names artifacts =>
      match artifacts.jsonSchema.document? with
      | some document => prohibitedIn entry.version family names document
      | none => []
  refine Eq.trans (List.flatMap_congr ?_) (hlookup.trans (List.flatMap_congr ?_))
  · rintro ⟨family, names⟩ -
    dsimp only
    cases entry.families.get? family <;> rfl
  · rintro ⟨family, artifacts⟩ -
    simp only [prohibitedInFamily, Config.prohibitedFor]
    cases config.prohibited.get? family with
    | none => cases artifacts.jsonSchema.document? <;> simp [prohibitedIn]
    | some names => rfl

namespace Pass

theorem findings_of_everyEntry {pass : Pass} (h : pass.reach = .everyEntry) (config : Config)
    (snapshot : CorpusSnapshot) :
    pass.findings config snapshot =
      snapshot.inVersions fun entry => entry.inFamilies (pass.inFamily entry.version) := by
  obtain ⟨_, _, _, _⟩ := pass
  cases h
  rfl

theorem findings_of_presentEntries {pass : Pass} (h : pass.reach = .presentEntries)
    (config : Config) (snapshot : CorpusSnapshot) :
    pass.findings config snapshot =
      snapshot.inVersions fun entry =>
        if entry.present then entry.inFamilies (pass.inFamily entry.version)
        else [absentVersion entry.version] := by
  obtain ⟨_, _, _, _⟩ := pass
  cases h
  refine List.flatMap_congr fun entry _ => ?_
  unfold inEntry
  cases entry.present <;> rfl

theorem findings_of_unreleasedEntry {pass : Pass} (h : pass.reach = .unreleasedEntry)
    (config : Config) (snapshot : CorpusSnapshot) :
    pass.findings config snapshot =
      snapshot.inUnreleased config fun entry => entry.inFamilies (pass.inFamily entry.version) := by
  obtain ⟨_, _, _, _⟩ := pass
  cases h
  unfold findings entries CorpusSnapshot.inUnreleased
  cases snapshot.version? config.unreleased with
  | none => rfl
  | some entry => exact List.flatMap_singleton _ _

/-- A rule finds what its passes find. -/
theorem check_eq {library : SchemaLibrary} {rule : Rule} (h : rule ∈ Rule.all library)
    (config : Config) (snapshot : CorpusSnapshot) :
    rule.check snapshot config =
      ((all library config).filter fun pass => pass.rule = rule.id).flatMap fun pass =>
        pass.findings config snapshot := by
  have hprohibited : Rule.prohibitedSchema.check snapshot config =
      snapshot.inVersions fun entry => entry.inFamilies (prohibitedInFamily config entry.version) :=
    List.flatMap_congr fun entry _ => prohibited_flatMap_eq config entry
  have hone : ∀ {pass : Pass} {found : List Finding}, pass.findings config snapshot = found →
      found = [pass].flatMap fun pass => pass.findings config snapshot := by
    rintro pass _ rfl
    exact (List.flatMap_singleton (fun pass : Pass => pass.findings config snapshot) pass).symm
  simp only [Rule.all, List.mem_cons, List.not_mem_nil, or_false] at h
  rcases h with rfl | rfl | rfl | rfl | rfl | rfl | rfl | rfl | rfl | rfl
  · exact hone (findings_of_presentEntries rfl config snapshot)
  · exact hone (findings_of_everyEntry rfl config snapshot)
  · exact hprohibited.trans (hone (findings_of_everyEntry rfl config snapshot))
  · show _ ++ _ = List.flatMap _ [_, _]
    rw [List.flatMap_cons, List.flatMap_singleton, findings_of_everyEntry rfl,
      findings_of_everyEntry rfl]
  · exact hone (findings_of_unreleasedEntry rfl config snapshot)
  · exact hone (findings_of_unreleasedEntry rfl config snapshot)
  · exact hone (findings_of_unreleasedEntry rfl config snapshot)
  · exact hone (findings_of_unreleasedEntry rfl config snapshot)
  · exact hone (findings_of_everyEntry rfl config snapshot)
  · exact hone (findings_of_everyEntry rfl config snapshot)

/-- The rules of a full run find what its passes find. -/
theorem flatMap_check_all (library : SchemaLibrary) (config : Config) (snapshot : CorpusSnapshot) :
    ((Rule.all library).flatMap fun rule => rule.check snapshot config) =
      (all library config).flatMap fun pass => pass.findings config snapshot := by
  rw [List.flatMap_congr fun rule hrule => check_eq hrule config snapshot, ← List.flatMap_assoc]
  -- Rule by rule the passes are listed in the order of the run.
  congr 1

/-- A full run finds what its passes find, one pass after another. -/
theorem holds_standard (library : SchemaLibrary) (config : Config) (snapshot : CorpusSnapshot) :
    ((Linter.standard library config).run snapshot).Holds
      ((all library config).flatMap fun pass => pass.findings config snapshot) := by
  rw [← flatMap_check_all]
  exact (Linter.standard library config).holds_run snapshot

theorem findings_standard (library : SchemaLibrary) (config : Config) (snapshot : CorpusSnapshot) :
    ((Linter.standard library config).run snapshot).findings =
      (all library config).flatMap fun pass => pass.findings config snapshot :=
  (holds_standard library config snapshot).findings_eq

/-! ### What every pass finds -/

variable {pass : Pass} {entry : VersionSnapshot} {finding : Finding}

/-- What a pass finds in an entry is about a family of that version, or says that the version is
absent. -/
theorem isBy_or_absent_of_mem (h : finding ∈ pass.inEntry entry) :
    (∃ row ∈ entry.families.entries, finding ∈ pass.inFamily entry.version row.1 row.2 ∧
        finding.IsBy pass.rule entry.version row.1) ∨
      pass.reach = .presentEntries ∧ finding = absentVersion entry.version := by
  unfold inEntry at h
  split at h
  · rename_i hreach _
    exact Or.inr ⟨hreach, List.mem_singleton.1 h⟩
  · obtain ⟨row, hrow, h⟩ := List.mem_flatMap.1 h
    exact Or.inl ⟨row, hrow, h, pass.isBy h⟩

theorem version_eq_of_mem_inEntry (h : finding ∈ pass.inEntry entry) :
    finding.context.version = some entry.version := by
  rcases isBy_or_absent_of_mem h with ⟨row, -, -, hby⟩ | ⟨-, rfl⟩
  · exact hby.about.1
  · rfl

/-- A pass reaches the same places of two snapshots whose entries correspond and have the same
versions. -/
theorem forall₂_entries {R : VersionSnapshot → VersionSnapshot → Prop} (pass : Pass)
    {s t : CorpusSnapshot} (hversion : ∀ a b, R a b → a.version = b.version)
    (h : List.Forall₂ R s.versions t.versions) (config : Config) :
    List.Forall₂ R (pass.entries config s) (pass.entries config t) := by
  obtain ⟨as⟩ := s
  obtain ⟨bs⟩ := t
  replace h : List.Forall₂ R as bs := h
  unfold entries CorpusSnapshot.version?
  cases pass.reach with
  | everyEntry | presentEntries => exact h
  | unreleasedEntry =>
      induction h with
      | nil => exact .nil
      | @cons a b _ _ hab _ ih =>
          -- Whether the search ends here depends on the version, which is the same on both sides.
          dsimp only at ih ⊢
          rw [List.find?_cons, List.find?_cons, hversion a b hab]
          cases b.version == config.unreleased with
          | true => exact .cons hab .nil
          | false => exact ih

end Pass

end SpecLint
