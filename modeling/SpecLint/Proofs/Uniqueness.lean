import SpecLint.BuiltIn
import SpecLint.Proofs.Distinct
import SpecLint.Proofs.Locality
import SpecLint.Proofs.Selection

/-!
When every problem is reported once. Findings of two passes, of two versions or of two families are
told apart by what they name, so a report repeats a finding only if a pass finds it twice in one
family, or looks twice at the same entry. The first happens where a name that is listed twice for a
family is defined there, and where two fields without a description have one text; the second where
a version is listed twice. `findings_nodup_iff` says that there is no other way.
-/

namespace SpecLint

open Rule Schema

/-- No name that is listed twice for a family is defined in its schema. -/
def FamilyArtifacts.ProhibitedOnce (artifacts : FamilyArtifacts) (config : Config)
    (family : Family) : Prop :=
  ∀ document, artifacts.jsonSchema.document? = some document →
    ∀ name, List.Duplicate name (config.prohibitedFor family) → document.hasDefinition name = false

/-- Different fields without a description have different texts. -/
structure FamilyArtifacts.FieldsToldApart (artifacts : FamilyArtifacts) : Prop where
  jsonSchema : ∀ document, artifacts.jsonSchema.document? = some document →
    ToldApart (undescribedPaths .jsonSchema document.definitions)
  openApi : ∀ document, artifacts.openApi.document? = some document →
    ToldApart (undescribedPaths .openApi document.schemas)

namespace Pass

variable {library : SchemaLibrary} {config : Config} {snapshot : CorpusSnapshot} {pass : Pass}

/-! ### One entry -/

theorem nodup_inEntry_iff {entry : VersionSnapshot} :
    (pass.inEntry entry).Nodup ↔
      (pass.Visits entry → ∀ row ∈ entry.families.entries,
        (pass.inFamily entry.version row.1 row.2).Nodup) := by
  rw [inEntry_eq]
  split
  · rename_i hvisits
    have hrows : entry.families.entries.Pairwise (Function.onFun List.Disjoint fun row =>
        pass.inFamily entry.version row.1 row.2) := by
      refine entry.families.ordered.imp fun {a b} hlt finding hfound hfound' => ?_
      have hfamily : some a.1 = some b.1 :=
        (pass.isBy hfound).about.2.symm.trans (pass.isBy hfound').about.2
      rw [Option.some.inj hfamily] at hlt
      exact String.lt_irrefl _ hlt
    have hnodup : (entry.inFamilies (pass.inFamily entry.version)).Nodup ↔
        ∀ row ∈ entry.families.entries, (pass.inFamily entry.version row.1 row.2).Nodup :=
      List.nodup_flatMap.trans (and_iff_left hrows)
    rw [hnodup]
    exact ⟨fun h _ => h, fun h => h hvisits⟩
  · rename_i hvisits
    exact ⟨fun _ h => absurd h hvisits, fun _ => List.nodup_singleton _⟩

/-- In no entry is anything found twice, unless by a name that is listed twice or by fields with one
text. -/
theorem forall_nodup_inEntry_iff :
    (∀ pass ∈ all library config, ∀ entry ∈ pass.entries config snapshot,
        (pass.inEntry entry).Nodup) ↔
      (∀ entry ∈ snapshot.versions, ∀ row ∈ entry.families.entries,
        row.2.ProhibitedOnce config row.1) ∧
      ∀ entry, snapshot.version? config.unreleased = some entry →
        ∀ row ∈ entry.families.entries, row.2.FieldsToldApart := by
  constructor
  · intro h
    refine ⟨fun entry hentry row hrow => ?_, fun entry hentry row hrow => ⟨?_, ?_⟩⟩
    · have hpass := h ⟨.prohibitedSchema, .everyEntry, prohibitedInFamily config,
        isBy_prohibitedInFamily⟩ (by simp [all]) entry hentry
      exact nodup_prohibitedInFamily_iff.1
        (nodup_inEntry_iff.1 hpass (visits_of_reach_ne (by simp)) row hrow)
    · have hpass := h ⟨.fieldDescription, .unreleasedEntry, undescribedInSchema,
        isBy_undescribedInSchema⟩ (by simp [all]) entry (Option.mem_toList.2 hentry)
      exact nodup_undescribedInSchema_iff.1
        (nodup_inEntry_iff.1 hpass (visits_of_reach_ne (by simp)) row hrow)
    · have hpass := h ⟨.openApiDescription, .unreleasedEntry, undescribedInInterface,
        isBy_undescribedInInterface⟩ (by simp [all]) entry (Option.mem_toList.2 hentry)
      exact nodup_undescribedInInterface_iff.1
        (nodup_inEntry_iff.1 hpass (visits_of_reach_ne (by simp)) row hrow)
  · rintro ⟨hprohibited, hfields⟩ pass hpass entry hentry
    refine nodup_inEntry_iff.2 fun _ row hrow => ?_
    cases hpass using all_cases with
    | schemaSyntax => exact nodup_jsonSchemaState _ _ _
    | interfaceSyntax => exact nodup_openApiState _ _ _
    | prohibited => exact nodup_prohibitedInFamily_iff.2 (hprohibited entry hentry row hrow)
    | schemaAmounts => exact nodup_schemaAmounts _ _ _ _
    | interfaceAmounts => exact nodup_interfaceAmounts _ _ _ _
    | schemaDescriptions =>
        exact nodup_undescribedInSchema_iff.2
          (hfields entry (Option.mem_toList.1 hentry) row hrow).jsonSchema
    | modelExamples => exact nodup_unexampledModels _ _ _
    | interfaceDescriptions =>
        exact nodup_undescribedInInterface_iff.2
          (hfields entry (Option.mem_toList.1 hentry) row hrow).openApi
    | objectExamples => exact nodup_unexampledObjects _ _ _
    | conformance => exact nodup_familyExamples _ _ _ _ _
    | required => exact nodup_familyDrift _ _ _

/-! ### Several entries -/

/-- Where different values have nothing in common, a list repeats something only by repeating a
value. -/
theorem pairwise_disjoint_iff {α β : Type} {values : List α} {found : α → List β}
    (h : ∀ a b, a ≠ b → (found a).Disjoint (found b)) :
    values.Pairwise (Function.onFun List.Disjoint found) ↔
      ∀ value, List.Duplicate value values → found value = [] := by
  rw [List.pairwise_iff_forall_sublist]
  simp only [List.duplicate_iff_sublist]
  constructor
  · intro hpairs value hsublist
    exact List.eq_nil_iff_forall_not_mem.2 fun x hx => hpairs hsublist hx hx
  · intro hnone a b hsublist
    by_cases hab : a = b
    · subst hab
      show (found a).Disjoint (found a)
      rw [hnone a hsublist]
      exact List.disjoint_nil_left _
    · exact h a b hab

variable {corpus : Corpus} {readers : Readers}

theorem nodup_findings_iff {versions : List VersionTag} :
    (pass.findings config (corpus.snapshot readers versions)).Nodup ↔
      (∀ entry ∈ pass.entries config (corpus.snapshot readers versions), (pass.inEntry entry).Nodup) ∧
      (pass.reach ≠ .unreleasedEntry → ∀ version, List.Duplicate version versions →
        pass.inEntry (corpus.snapshotVersion readers version) = []) := by
  rw [findings, List.nodup_flatMap]
  refine and_congr_right fun _ => ?_
  by_cases hreach : pass.reach = .unreleasedEntry
  · -- At the version that is still edited a pass looks once at most.
    have hentries : (pass.entries config (corpus.snapshot readers versions)).Pairwise
        (Function.onFun List.Disjoint pass.inEntry) := by
      unfold entries
      rw [hreach]
      cases (corpus.snapshot readers versions).version? config.unreleased <;> simp
    exact ⟨fun _ h => absurd hreach h, fun _ => hentries⟩
  · have hversions : ∀ a b : VersionTag, a ≠ b →
        (pass.inEntry (corpus.snapshotVersion readers a)).Disjoint
          (pass.inEntry (corpus.snapshotVersion readers b)) := by
      intro a b hab finding ha hb
      have hversion := (version_eq_of_mem_inEntry ha).symm.trans (version_eq_of_mem_inEntry hb)
      rw [Corpus.version_snapshotVersion, Corpus.version_snapshotVersion] at hversion
      exact hab (Option.some.inj hversion)
    rw [entries_eq_versions hreach, Corpus.snapshot, List.pairwise_map]
    exact (pairwise_disjoint_iff hversions).trans ⟨fun h _ => h, fun h => h hreach⟩

theorem forall_nodup_findings_iff {versions : List VersionTag} :
    (∀ pass ∈ all library config, (pass.findings config (corpus.snapshot readers versions)).Nodup) ↔
      (∀ version, List.Duplicate version versions → ∀ pass ∈ all library config,
        pass.reach ≠ .unreleasedEntry → pass.inEntry (corpus.snapshotVersion readers version) = []) ∧
      ∀ pass ∈ all library config, ∀ entry ∈ pass.entries config (corpus.snapshot readers versions),
        (pass.inEntry entry).Nodup := by
  simp only [nodup_findings_iff]
  constructor
  · intro h
    exact ⟨fun version htwice pass hpass hreach => (h pass hpass).2 hreach version htwice,
      fun pass hpass => (h pass hpass).1⟩
  · rintro ⟨htwice, hentries⟩ pass hpass
    exact ⟨hentries pass hpass, fun hreach version h => htwice version h pass hpass hreach⟩

/-! ### All passes -/

/-- Two passes differ in their rule, or they are the two that look for amounts. -/
def Apart (config : Config) (a b : Pass) : Prop :=
  a.rule ≠ b.rule ∨
    a = ⟨.amountType, .everyEntry, schemaAmounts config, isBy_schemaAmounts⟩ ∧
      b = ⟨.amountType, .everyEntry, interfaceAmounts config, isBy_interfaceAmounts⟩

theorem pairwise_apart (library : SchemaLibrary) (config : Config) :
    (all library config).Pairwise (Apart config) := by
  simp [all, Apart]

theorem Apart.disjoint {a b : Pass} (h : Apart config a b) (ha : a ∈ all library config)
    (hb : b ∈ all library config) :
    (a.findings config snapshot).Disjoint (b.findings config snapshot) := by
  intro finding hfound hfound'
  rcases h with hrule | ⟨rfl, rfl⟩
  · exact hrule ((rule_eq_of_mem ha hfound).symm.trans (rule_eq_of_mem hb hfound'))
  · -- Amounts are named with the artifact in which they stand.
    obtain ⟨_, _, _, hschema⟩ := exists_row_of_mem rfl hfound
    obtain ⟨_, _, _, hinterface⟩ := exists_row_of_mem rfl hfound'
    obtain ⟨_, _, _, _, _, -, -, rfl⟩ := eq_of_mem_schemaAmounts hschema
    obtain ⟨_, _, _, _, _, -, -, heq⟩ := eq_of_mem_interfaceAmounts hinterface
    cases congrArg (·.context.artifact) heq

theorem nodup_run_iff :
    ((Linter.standard library config).run snapshot).findings.Nodup ↔
      ∀ pass ∈ all library config, (pass.findings config snapshot).Nodup := by
  have hdisjoint : (all library config).Pairwise
      (Function.onFun List.Disjoint fun pass => pass.findings config snapshot) :=
    (pairwise_apart library config).imp_of_mem fun ha hb hab => hab.disjoint ha hb
  rw [findings_standard, List.nodup_flatMap]
  exact and_iff_left hdisjoint

/-- Looking twice at a version finds nothing twice if only rules for authors find something there,
because these look once. -/
theorem forall_inEntry_eq_nil_iff {versions : List VersionTag}
    {version : VersionTag} (hversion : version ∈ versions) :
    (∀ pass ∈ all library config, pass.reach ≠ .unreleasedEntry →
        pass.inEntry (corpus.snapshotVersion readers version) = []) ↔
      ∀ finding ∈ ((Linter.standard library config).run (corpus.snapshot readers versions)).findings,
        finding.context.version = some version → finding.rule ∈ RuleId.authoring := by
  rw [findings_standard]
  constructor
  · intro h finding hfinding htag
    obtain ⟨pass, hpass, hfinding⟩ := List.mem_flatMap.1 hfinding
    rw [rule_eq_of_mem hpass hfinding]
    refine authoring_of_reach hpass ?_
    by_contra hreach
    obtain ⟨entry, hentry, hfinding⟩ := List.mem_flatMap.1 hfinding
    obtain ⟨other, -, rfl⟩ := List.mem_map.1 (mem_versions_of_mem_entries hentry)
    have hsame := (version_eq_of_mem_inEntry hfinding).symm.trans htag
    rw [Corpus.version_snapshotVersion, Option.some.injEq] at hsame
    rw [hsame, h pass hpass hreach] at hfinding
    cases hfinding
  · intro h pass hpass hreach
    refine List.eq_nil_iff_forall_not_mem.2 fun finding hfinding => hreach ?_
    have hentry : corpus.snapshotVersion readers version ∈
        pass.entries config (corpus.snapshot readers versions) := by
      rw [entries_eq_versions hreach]
      exact List.mem_map_of_mem hversion
    have hfound : finding ∈ pass.findings config (corpus.snapshot readers versions) :=
      List.mem_flatMap.2 ⟨_, hentry, hfinding⟩
    have hrule := h finding (List.mem_flatMap.2 ⟨pass, hpass, hfound⟩) (by
      rw [version_eq_of_mem_inEntry hfinding, Corpus.version_snapshotVersion])
    rw [rule_eq_of_mem hpass hfound] at hrule
    exact reach_of_authoring hpass hrule

end Pass

/-! ### Reports -/

theorem Config.exists_selectVersions {config : Config} {requested : List VersionTag}
    (hknown : ∀ tag ∈ requested, tag ∈ config.versions) :
    ∃ versions, config.selectVersions requested = .ok versions := by
  cases requested with
  | nil => exact ⟨config.versions, rfl⟩
  | cons tag tags => exact ⟨_, Config.selectVersions_of_configured (List.cons_ne_nil _ _) hknown⟩

/-- A run of configured versions over a usable corpus reports everything once, if and only if of a
version that is listed twice only rules for authors report something, no name that is listed twice
for a family is defined there, and in the version that is still edited different fields without a
description have different texts. -/
theorem findings_nodup_iff {libraries : Libraries} {corpus : Corpus} {config : Config}
    {requested : List VersionTag} (hconfig : config.validate = .ok ()) (hroot : corpus.IsUsable)
    (hknown : ∀ tag ∈ requested, tag ∈ config.versions) :
    ∃ versions report, config.selectVersions requested = .ok versions ∧
      lintCorpus libraries corpus config requested = .ok report ∧
      (report.findings.Nodup ↔
        (∀ version, List.Duplicate version versions → ∀ finding ∈ report.findings,
          finding.context.version = some version → finding.rule ∈ RuleId.authoring) ∧
        (∀ version ∈ versions, ∀ family artifacts,
          (corpus.snapshotVersion libraries.readers version).families.get? family = some artifacts →
            artifacts.ProhibitedOnce config family) ∧
        (config.unreleased ∈ versions → ∀ family artifacts,
          (corpus.snapshotVersion libraries.readers config.unreleased).families.get? family =
              some artifacts →
            artifacts.FieldsToldApart)) := by
  obtain ⟨versions, hversions⟩ := Config.exists_selectVersions hknown
  refine ⟨versions, _, hversions, lintCorpus_eq_ok hconfig hroot hversions, ?_⟩
  rw [Pass.nodup_run_iff, Pass.forall_nodup_findings_iff, Pass.forall_nodup_inEntry_iff]
  refine and_congr ?_ (and_congr ?_ ?_)
  · exact forall₂_congr fun version htwice => Pass.forall_inEntry_eq_nil_iff htwice.mem
  · simp only [Corpus.snapshot, List.forall_mem_map, ← FamilyTable.get?_eq_some_iff, Prod.forall]
  · simp only [Corpus.version?_snapshot, ← FamilyTable.get?_eq_some_iff, Prod.forall,
      Option.ite_none_right_eq_some, Option.some.injEq, and_imp]
    exact ⟨fun h hmem => h _ hmem rfl, fun h _ hmem heq => heq ▸ h hmem⟩

/-- Where no family is published, a request that names a version twice reports everything once. -/
theorem findings_nodup_released :
    let newest : VersionTag := ⟨"2026-01-30", isVersionText_newest⟩
    Config.standard.validate = .ok () ∧ sparseCorpus.IsUsable ∧
      ∃ report, lintCorpus .builtIn sparseCorpus .standard [newest, .unreleased, newest] = .ok report ∧
        report.findings.Nodup := by
  intro newest
  have hconfig : Config.standard.validate = .ok () :=
    Config.validate_eq_ok_iff.2 (by decide +kernel)
  have hroot : sparseCorpus.IsUsable := ⟨by decide +kernel, by decide +kernel⟩
  have hknown : ∀ tag ∈ [newest, .unreleased, newest], tag ∈ Config.standard.versions := by
    decide +kernel
  obtain ⟨versions, report, hversions, hreport, hnodup⟩ := findings_nodup_iff hconfig hroot hknown
  rw [Config.selectVersions_of_configured (by simp) hknown, Except.ok.injEq] at hversions
  have hselected : versions = [newest, .unreleased] := by
    rw [← hversions]
    decide +kernel
  have hfamilies : ∀ version ∈ versions,
      (sparseCorpus.snapshotVersion .builtIn version).families.entries.isEmpty = true := by
    rw [hselected]
    decide +kernel
  have hnone : ∀ version ∈ versions, ∀ family artifacts,
      (sparseCorpus.snapshotVersion .builtIn version).families.get? family ≠ some artifacts := by
    intro version hversion family artifacts hfamily
    have hmem := FamilyTable.get?_eq_some_iff.1 hfamily
    rw [List.isEmpty_iff.1 (hfamilies version hversion)] at hmem
    cases hmem
  refine ⟨hconfig, hroot, report, hreport, hnodup.2 ⟨?_, ?_, ?_⟩⟩
  · intro version htwice
    have hdistinct : versions.Nodup := by
      rw [hselected]
      decide +kernel
    exact absurd htwice (List.nodup_iff_forall_not_duplicate.1 hdistinct version)
  · intro version hversion family artifacts hfamily
    exact absurd hfamily (hnone version hversion family artifacts)
  · intro hversion family artifacts hfamily
    exact absurd hfamily (hnone _ hversion family artifacts)

/-- A run of all versions reports something twice. -/
def RepeatsFinding (libraries : Libraries) (corpus : Corpus) (config : Config) : Prop :=
  config.validate = .ok () ∧ corpus.IsUsable ∧
    ∃ report, lintCorpus libraries corpus config [] = .ok report ∧ ¬report.findings.Nodup

theorem repeatsFinding_of_run {libraries : Libraries} {corpus : Corpus} {config : Config}
    (hconfig : config.unreleased ∈ config.versions) (hroot : corpus.IsUsable)
    (h : ¬((Linter.standard libraries.schemas config).run
      (corpus.snapshot libraries.readers config.versions)).findings.Nodup) :
    RepeatsFinding libraries corpus config := by
  have hvalid := Config.validate_eq_ok_iff.2 hconfig
  exact ⟨hvalid, hroot, _, lintCorpus_eq_ok hvalid hroot rfl, h⟩

/-- A corpus with one schema, in the version that is still edited. -/
def corpusOfSchema (schema : Json) : Corpus :=
  ⟨⟨.directory [("corpus", .directory [("spec", .directory [("unreleased", .directory
      [("json-schema", .directory
        [("schema.agentic_checkout.json", .file schema.compact.toUTF8)])])])])], ⟨"/"⟩⟩,
    ⟨"/corpus"⟩⟩

/-- Runs over the version that is still edited. -/
def unreleasedAlone : Config := { Config.standard with versions := [.unreleased] }

/-- Something is reported twice for a name that is listed twice for a family, for a version that is
listed twice, and for two fields with one text. -/
theorem repeatsFinding_of_listed_twice :
    let newest : VersionTag := ⟨"2026-01-30", isVersionText_newest⟩
    let leaf : Json := .object [("type", .string "string")]
    RepeatsFinding .builtIn
        (corpusOfSchema (.object [("$defs", .object [("Refund", .object [])])]))
        { unreleasedAlone with
          prohibited := .ofList [(.agenticCheckout, ["Refund", "Refund"])] } ∧
      RepeatsFinding .builtIn sparseCorpus
        { Config.standard with versions := [newest, newest, .unreleased] } ∧
      RepeatsFinding .builtIn
        (corpusOfSchema (.object [("$defs", .object [("Order", .object [("properties", .object
          [("a", .object [("properties", .object [("b", leaf)])]), ("a.b", leaf)])])])]))
        unreleasedAlone := by
  intro newest leaf
  refine ⟨repeatsFinding_of_run ?_ ⟨?_, ?_⟩ ?_, repeatsFinding_of_run ?_ ⟨?_, ?_⟩ ?_,
    repeatsFinding_of_run ?_ ⟨?_, ?_⟩ ?_⟩ <;> decide +kernel

end SpecLint
