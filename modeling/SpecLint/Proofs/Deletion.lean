import Mathlib.Data.List.Flatten
import SpecLint.BuiltIn
import SpecLint.Proofs.Pass

/-!
Deletion of artifacts: a file that is not there is never an error, neither about itself nor about
the files beside it. What a pass finds in a family can lose errors when artifacts of the family go
missing, but gain none (`Pass.shrinks_of_mem_all`); from there the errors of a run are followed up
through rows, entries and passes.
-/

namespace SpecLint

/-- An artifact stays as it is or goes missing. -/
def Artifact.Deletion {α : Type} (before after : Artifact α) : Prop :=
  after = before ∨ after = .missing

/-- Some artifacts of a family go missing. -/
structure FamilyArtifacts.Deletion (before after : FamilyArtifacts) : Prop where
  jsonSchema : before.jsonSchema.Deletion after.jsonSchema
  openApi : before.openApi.Deletion after.openApi
  examples : before.examples.Deletion after.examples

/-- Some artifacts of a version go missing; its families remain listed. -/
structure VersionSnapshot.Deletion (before after : VersionSnapshot) : Prop where
  version_eq : before.version = after.version
  present_eq : before.present = after.present
  rows : List.Forall₂ (fun a b => a.1 = b.1 ∧ a.2.Deletion b.2) before.families.entries
    after.families.entries

/-- Some artifacts of a snapshot go missing. -/
def CorpusSnapshot.Deletion (before after : CorpusSnapshot) : Prop :=
  List.Forall₂ VersionSnapshot.Deletion before.versions after.versions

/-- The errors among some findings. -/
def errorsIn (findings : List Finding) : List Finding := findings.filter Finding.isError

@[simp] theorem errorsIn_append (first more : List Finding) :
    errorsIn (first ++ more) = errorsIn first ++ errorsIn more :=
  List.filter_append _ _

theorem errorsIn_eq_nil {findings : List Finding}
    (h : ∀ finding ∈ findings, finding.severity = .warning) : errorsIn findings = [] := by
  refine List.filter_eq_nil_iff.2 fun finding hfinding => ?_
  simp [Finding.isError, h finding hfinding]

/-- What looks at one artifact, and has no error to report when it is missing, has none to add when
the artifact goes missing. -/
theorem Artifact.Deletion.errorsIn_sublist {α : Type} {before after : Artifact α}
    (h : before.Deletion after) (look : Artifact α → List Finding)
    (hmissing : errorsIn (look .missing) = []) :
    (errorsIn (look after)).Sublist (errorsIn (look before)) := by
  rcases h with rfl | rfl
  · exact List.Sublist.refl _
  · rw [hmissing]
    exact List.nil_sublist _

/-! ### One family -/

namespace Pass

/-- A pass finds no new errors in a family whose artifacts go missing. -/
def Shrinks (pass : Pass) : Prop :=
  ∀ (version : VersionTag) (family : Family) {before after : FamilyArtifacts},
    before.Deletion after →
      (errorsIn (pass.inFamily version family after)).Sublist
        (errorsIn (pass.inFamily version family before))

/-- A pass that reads one artifact of a family, and reports no error when it is missing, shrinks. -/
theorem shrinks_of_reads {α : Type} {pass : Pass} (read : FamilyArtifacts → Artifact α)
    (alone : Artifact α → FamilyArtifacts)
    (hread : ∀ {before after : FamilyArtifacts}, before.Deletion after →
      (read before).Deletion (read after))
    (hreads : ∀ version family artifacts, pass.inFamily version family artifacts =
      pass.inFamily version family (alone (read artifacts)))
    (hmissing : ∀ version family, errorsIn (pass.inFamily version family (alone .missing)) = []) :
    pass.Shrinks := by
  intro version family before after h
  rw [hreads version family before, hreads version family after]
  exact (hread h).errorsIn_sublist (fun artifact => pass.inFamily version family (alone artifact))
    (hmissing version family)

/-- A family with a schema and nothing else. -/
def schemaAlone (schema : Artifact JsonSchemaDocument) : FamilyArtifacts :=
  ⟨schema, .missing, .missing⟩

/-- A family with an interface and nothing else. -/
def interfaceAlone (interface : Artifact OpenApiDocument) : FamilyArtifacts :=
  ⟨.missing, interface, .missing⟩

end Pass

/-- Examples are read beside a schema: each of the two may go missing before the other. -/
theorem familyExamples_sublist (library : SchemaLibrary) (config : Config) (version : VersionTag)
    (family : Family) {before after : FamilyArtifacts} (h : before.Deletion after) :
    (errorsIn (Rule.familyExamples library config version family after)).Sublist
      (errorsIn (Rule.familyExamples library config version family before)) := by
  let found (artifacts : FamilyArtifacts) : List Finding :=
    Rule.familyExamples library config version family artifacts
  have hschema : (errorsIn (found { before with jsonSchema := after.jsonSchema })).Sublist
      (errorsIn (found before)) :=
    h.jsonSchema.errorsIn_sublist (fun artifact => found { before with jsonSchema := artifact }) rfl
  have hmissing : found { after with examples := .missing } = [] := by
    cases hdocument : after.jsonSchema.document? <;>
      simp [found, Rule.familyExamples, hdocument]
  have hexamples : (errorsIn (found after)).Sublist
      (errorsIn (found { before with jsonSchema := after.jsonSchema })) :=
    h.examples.errorsIn_sublist (fun artifact => found { after with examples := artifact })
      (congrArg errorsIn hmissing)
  -- First the schema goes missing, then the examples.
  exact hexamples.trans hschema

theorem severity_of_mem_familyDrift {version : VersionTag} {family : Family}
    {artifacts : FamilyArtifacts} {finding : Finding}
    (h : finding ∈ Rule.familyDrift version family artifacts) : finding.severity = .warning := by
  obtain ⟨_, _, _, _, _, _, -, -, -, -, ⟨-, -, rfl⟩ | ⟨-, -, rfl⟩⟩ :=
    Rule.eq_oneSided_of_mem_familyDrift h
  · rfl
  · rfl

namespace Pass

/-- Every pass of a full run finds no new errors in a family whose artifacts go missing. -/
theorem shrinks_of_mem_all {library : SchemaLibrary} {config : Config} {pass : Pass}
    (h : pass ∈ all library config) : pass.Shrinks := by
  cases h using all_cases with
  -- All but two read one artifact and have at most a warning about one that is missing.
  | schemaSyntax | prohibited | schemaAmounts | schemaDescriptions | modelExamples =>
      exact shrinks_of_reads _ schemaAlone (·.jsonSchema) (fun _ _ _ => rfl) fun _ _ => rfl
  | interfaceSyntax | interfaceAmounts | interfaceDescriptions | objectExamples =>
      exact shrinks_of_reads _ interfaceAlone (·.openApi) (fun _ _ _ => rfl) fun _ _ => rfl
  | conformance =>
      intro version family before after h
      exact familyExamples_sublist library config version family h
  | required =>
      -- What drifts is a matter of warnings, whichever artifacts there are.
      intro version family before after _
      have hnone : errorsIn (Rule.familyDrift version family after) = [] :=
        errorsIn_eq_nil fun finding hfinding => severity_of_mem_familyDrift hfinding
      show (errorsIn (Rule.familyDrift version family after)).Sublist _
      rw [hnone]
      exact List.nil_sublist _

/-! ### From families to runs -/

theorem Shrinks.errorsIn_rows {pass : Pass} (hpass : pass.Shrinks) (version : VersionTag)
    {before after : List (Family × FamilyArtifacts)}
    (h : List.Forall₂ (fun a b => a.1 = b.1 ∧ a.2.Deletion b.2) before after) :
    (errorsIn (after.flatMap fun row => pass.inFamily version row.1 row.2)).Sublist
      (errorsIn (before.flatMap fun row => pass.inFamily version row.1 row.2)) := by
  induction h with
  | nil => exact List.Sublist.refl _
  | @cons a b _ _ hab _ ih =>
      rw [List.flatMap_cons, List.flatMap_cons, errorsIn_append, errorsIn_append, hab.1]
      exact (hpass version b.1 hab.2).append ih

theorem Shrinks.errorsIn_inEntry {pass : Pass} (hpass : pass.Shrinks)
    {before after : VersionSnapshot} (h : before.Deletion after) :
    (errorsIn (pass.inEntry after)).Sublist (errorsIn (pass.inEntry before)) := by
  have hfamilies : (errorsIn (after.inFamilies (pass.inFamily after.version))).Sublist
      (errorsIn (before.inFamilies (pass.inFamily before.version))) := by
    rw [h.version_eq]
    exact hpass.errorsIn_rows after.version h.rows
  unfold inEntry
  rw [h.present_eq]
  cases pass.reach with
  | everyEntry | unreleasedEntry => exact hfamilies
  | presentEntries =>
      cases after.present with
      | true => exact hfamilies
      | false => rw [h.version_eq]

theorem Shrinks.errorsIn_flatMap {pass : Pass} (hpass : pass.Shrinks)
    {before after : List VersionSnapshot}
    (h : List.Forall₂ VersionSnapshot.Deletion before after) :
    (errorsIn (after.flatMap pass.inEntry)).Sublist (errorsIn (before.flatMap pass.inEntry)) := by
  induction h with
  | nil => exact List.Sublist.refl _
  | cons hab _ ih =>
      rw [List.flatMap_cons, List.flatMap_cons, errorsIn_append, errorsIn_append]
      exact (hpass.errorsIn_inEntry hab).append ih

end Pass

/-- The errors of a run after artifacts went missing are among those of the run before, so a corpus
that passes goes on passing. -/
theorem errors_sublist_of_deletion (library : SchemaLibrary) (config : Config)
    {before after : CorpusSnapshot} (h : before.Deletion after) :
    ((Linter.standard library config).run after).errors.toList.Sublist
        ((Linter.standard library config).run before).errors.toList ∧
      (((Linter.standard library config).run before).exitCode = 0 →
        ((Linter.standard library config).run after).exitCode = 0) := by
  have hsublist : ((Linter.standard library config).run after).errors.toList.Sublist
      ((Linter.standard library config).run before).errors.toList := by
    rw [(Pass.holds_standard library config after).errors,
      (Pass.holds_standard library config before).errors, List.filter_flatMap, List.filter_flatMap]
    refine List.Sublist.flatMap_right _ fun pass hpass => ?_
    exact (Pass.shrinks_of_mem_all hpass).errorsIn_flatMap
      (pass.forall₂_entries (fun _ _ hab => hab.version_eq) h config)
  refine ⟨hsublist, ?_⟩
  rw [Report.exitCode_eq_zero_iff, Report.exitCode_eq_zero_iff]
  intro hnone
  rw [hnone] at hsublist
  exact List.sublist_nil.1 hsublist

/-- A snapshot of one family with two artifacts. -/
def checkoutAlone (schema : Artifact JsonSchemaDocument) (interface : Artifact OpenApiDocument) :
    CorpusSnapshot :=
  ⟨[⟨.unreleased, true,
    FamilyTable.empty.insert .agenticCheckout ⟨schema, interface, .missing⟩⟩]⟩

/-- A schema that declares its dialect and nothing else. -/
def dialectAlone : JsonSchemaDocument :=
  ⟨[("$schema", .string "draft")], .cons (by simp) .nil, trivial, trivial⟩

/-- An interface that cannot be read goes missing, and then the schema beside it. -/
theorem errors_sublist_of_deletion_checkout :
    let broken := checkoutAlone (.parsed dialectAlone) (.malformed (.notAnObject "string"))
    let sound := checkoutAlone (.parsed dialectAlone) .missing
    (broken.Deletion sound ∧
      ((Linter.standard .builtIn .standard).run sound).errors.toList.Sublist
        ((Linter.standard .builtIn .standard).run broken).errors.toList) ∧
    (sound.Deletion (checkoutAlone .missing .missing) ∧
      ((Linter.standard .builtIn .standard).run sound).exitCode = 0 ∧
      ((Linter.standard .builtIn .standard).run (checkoutAlone .missing .missing)).exitCode = 0) := by
  intro broken sound
  have hinterface : broken.Deletion sound :=
    .cons ⟨rfl, rfl, .cons ⟨rfl, Or.inl rfl, Or.inr rfl, Or.inl rfl⟩ .nil⟩ .nil
  have hschema : sound.Deletion (checkoutAlone .missing .missing) :=
    .cons ⟨rfl, rfl, .cons ⟨rfl, Or.inr rfl, Or.inl rfl, Or.inl rfl⟩ .nil⟩ .nil
  have hpasses : ((Linter.standard .builtIn .standard).run sound).exitCode = 0 := by
    decide +kernel
  exact ⟨⟨hinterface, (errors_sublist_of_deletion .builtIn .standard hinterface).1⟩, hschema,
    hpasses, (errors_sublist_of_deletion .builtIn .standard hschema).2 hpasses⟩

end SpecLint
