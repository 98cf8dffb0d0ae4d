import SpecLint.Proofs.Deletion
import SpecLint.Proofs.Grounding
import SpecLint.Proofs.Selection

/-!
Artifacts that are missing or malformed. A schema or an interface that cannot be read is the matter
of its rule of syntax and of no other, for whatever else names an artifact names one that was read
(`Pass.names_of_mem`); so a run has one finding about such a problem (`load_problem_reported_once`).
No rule of syntax looks at examples. They are read beside a schema that was read, and beside any
other they might as well not be there (`run_eq_of_unread_examples`). A malformed artifact makes a
run fail, but for examples beside a missing schema (`run_fails_of_malformed`).
-/

namespace SpecLint

open Rule

/-! ### What a finding names -/

/-- A finding names an artifact that was read, or examples. -/
def Finding.NamesRead (finding : Finding) (artifacts : FamilyArtifacts) : Prop :=
  ∃ kind, finding.context.artifact = some kind ∧
    (kind = .examples ∨ artifacts.problem? kind = none)

namespace Pass

variable {library : SchemaLibrary} {config : Config} {snapshot : CorpusSnapshot}
  {entry : VersionSnapshot} {pass : Pass} {version : VersionTag} {family : Family}
  {artifacts : FamilyArtifacts} {finding : Finding}

/-- What a rule of syntax finds names the artifact at which it looks; what any other rule finds
names one that was read. -/
theorem names_of_mem (hpass : pass ∈ all library config)
    (h : finding ∈ pass.inFamily version family artifacts) :
    (∃ kind : ArtifactKind, kind.syntaxRule? = some pass.rule ∧
        finding.context.artifact = some kind) ∨
      finding.NamesRead artifacts := by
  have hrule : finding.rule = pass.rule := (pass.isBy h).rule_eq
  cases says_of_mem hpass h with
  | @state kind rule severity message hsyntax _ =>
      obtain rfl : rule = pass.rule := hrule
      exact Or.inl ⟨kind, hsyntax, rfl⟩
  | @definition kind _ _ hdefined herror =>
      have hread := FamilyArtifacts.problem?_of_definition? herror.kind_ne hdefined
      exact Or.inr ⟨kind, herror.artifact_eq, Or.inr hread⟩
  | unreadable | violation => exact Or.inr ⟨.examples, rfl, Or.inl rfl⟩
  | drift hdrifts =>
      have hread := FamilyArtifacts.problem?_of_definition? hdrifts.requires_ne
        (hdrifts.definition?_isSome _)
      exact Or.inr ⟨_, rfl, Or.inr hread⟩

/-- Only the rule of syntax speaks of an artifact that was not read. -/
theorem rule_eq_of_problem (hpass : pass ∈ all library config)
    (h : finding ∈ pass.inFamily version family artifacts) {kind : ArtifactKind} {rule : RuleId}
    {severity : Severity} (hkind : finding.context.artifact = some kind)
    (hrule : kind.syntaxRule? = some rule) (hproblem : artifacts.problem? kind = some severity) :
    pass.rule = rule := by
  rcases names_of_mem hpass h with ⟨own, hown, hnamed⟩ | ⟨read, hnamed, hread⟩
  · obtain rfl : kind = own := Option.some.inj (hkind.symm.trans hnamed)
    exact Option.some.inj (hown.symm.trans hrule)
  · obtain rfl : kind = read := Option.some.inj (hkind.symm.trans hnamed)
    rcases hread with rfl | hread
    · -- No rule of syntax looks at examples.
      cases hrule
    · rw [hread] at hproblem
      cases hproblem

/-- Of an artifact that was not read, the rule of syntax has one thing to say. -/
theorem exists_syntaxPass (library : SchemaLibrary) (config : Config) {kind : ArtifactKind}
    {rule : RuleId} (hrule : kind.syntaxRule? = some rule) :
    ∃ pass : Pass, ((all library config).filter fun pass => pass.rule = rule) = [pass] ∧
      pass.reach ≠ .unreleasedEntry ∧
      ∀ version family artifacts severity, artifacts.problem? kind = some severity →
        ∃ finding, pass.inFamily version family artifacts = [finding] ∧
          finding.context.artifact = some kind ∧ finding.severity = severity := by
  cases kind with
  | jsonSchema =>
      cases hrule
      refine ⟨⟨.jsonSchemaSyntax, .presentEntries, jsonSchemaState, isBy_jsonSchemaState⟩, rfl,
        by decide, fun version family artifacts severity hproblem => ?_⟩
      obtain ⟨schema, _, _⟩ := artifacts
      cases schema with
      | parsed _ => cases hproblem
      | missing | malformed _ =>
          cases hproblem
          exact ⟨_, rfl, rfl, rfl⟩
  | openApi =>
      cases hrule
      refine ⟨⟨.openApiSyntax, .everyEntry, openApiState, isBy_openApiState⟩, rfl,
        by decide, fun version family artifacts severity hproblem => ?_⟩
      obtain ⟨_, interface, _⟩ := artifacts
      cases interface with
      | parsed _ => cases hproblem
      | missing | malformed _ =>
          cases hproblem
          exact ⟨_, rfl, rfl, rfl⟩
  | examples => cases hrule

end Pass

/-! ### Problems are reported once -/

/-- The finding is about one artifact of a family of a version. -/
def Finding.IsOn (finding : Finding) (version : VersionTag) (family : Family)
    (kind : ArtifactKind) : Prop :=
  finding.IsAbout version family ∧ finding.context.artifact = some kind

instance (finding : Finding) (version : VersionTag) (family : Family) (kind : ArtifactKind) :
    Decidable (finding.IsOn version family kind) :=
  inferInstanceAs (Decidable (_ ∧ _))

section

variable {library : SchemaLibrary} {config : Config} {snapshot : CorpusSnapshot}
  {entry : VersionSnapshot}

theorem CorpusSnapshot.filter_version_eq (hentry : entry ∈ snapshot.versions)
    (honce : (snapshot.versions.map (·.version)).count entry.version = 1) :
    (snapshot.versions.filter fun other => other.version = entry.version) = [entry] := by
  have hlength : (snapshot.versions.filter fun other => other.version = entry.version).length =
      1 := by
    rw [← honce, List.count_eq_countP, List.countP_map, List.countP_eq_length_filter]
    congr 1
  obtain ⟨other, hother⟩ := List.length_eq_one_iff.1 hlength
  have hmem : entry ∈ snapshot.versions.filter fun other => other.version = entry.version :=
    List.mem_filter.2 ⟨hentry, decide_eq_true rfl⟩
  rw [hother] at hmem ⊢
  rw [List.mem_singleton.1 hmem]

/-- A finding that names a version was found in the entry of that version. -/
theorem exists_pass_of_mem (hentry : entry ∈ snapshot.versions)
    (honce : (snapshot.versions.map (·.version)).count entry.version = 1) {finding : Finding}
    (h : finding ∈ ((Linter.standard library config).run snapshot).findings)
    (hversion : finding.context.version = some entry.version) :
    ∃ pass ∈ Pass.all library config, finding ∈ pass.inEntry entry := by
  rw [Pass.findings_standard] at h
  obtain ⟨pass, hpass, h⟩ := List.mem_flatMap.1 h
  obtain ⟨other, hother, h⟩ := List.mem_flatMap.1 h
  have htag : other.version = entry.version :=
    Option.some.inj ((Pass.version_eq_of_mem_inEntry h).symm.trans hversion)
  have hmem : other ∈ snapshot.versions.filter fun other => other.version = entry.version :=
    List.mem_filter.2 ⟨Pass.mem_versions_of_mem_entries hother, decide_eq_true htag⟩
  rw [CorpusSnapshot.filter_version_eq hentry honce] at hmem
  exact ⟨pass, hpass, List.mem_singleton.1 hmem ▸ h⟩

theorem rule_eq_of_isOn (hentry : entry ∈ snapshot.versions)
    (honce : (snapshot.versions.map (·.version)).count entry.version = 1) {family : Family}
    {artifacts : FamilyArtifacts} (hfamily : entry.families.get? family = some artifacts)
    {kind : ArtifactKind} {rule : RuleId} {severity : Severity}
    (hrule : kind.syntaxRule? = some rule) (hproblem : artifacts.problem? kind = some severity)
    {finding : Finding} (h : finding ∈ ((Linter.standard library config).run snapshot).findings)
    (hon : finding.IsOn entry.version family kind) : finding.rule = rule := by
  obtain ⟨⟨hversion, hspec⟩, hkind⟩ := hon
  obtain ⟨pass, hpass, h⟩ := exists_pass_of_mem hentry honce h hversion
  rcases Pass.isBy_or_absent_of_mem h with ⟨row, hrow, hfound, hby⟩ | ⟨-, rfl⟩
  · obtain rfl : row.1 = family := Option.some.inj (hby.about.2.symm.trans hspec)
    have hsame : entry.families.get? row.1 = some row.2 := FamilyTable.get?_eq_some_iff.2 hrow
    obtain rfl : row.2 = artifacts := Option.some.inj (hsame.symm.trans hfamily)
    rw [hby.rule_eq]
    exact Pass.rule_eq_of_problem hpass hfound hkind hrule hproblem
  · cases hspec

/-- What is found about an artifact that was not read is what its rule of syntax has to say. -/
theorem filter_isOn_eq (hentry : entry ∈ snapshot.versions)
    (honce : (snapshot.versions.map (·.version)).count entry.version = 1) {family : Family}
    {artifacts : FamilyArtifacts} (hfamily : entry.families.get? family = some artifacts)
    {kind : ArtifactKind} {rule : RuleId} {severity : Severity}
    (hrule : kind.syntaxRule? = some rule) (hproblem : artifacts.problem? kind = some severity)
    {pass : Pass} (hpass : ((Pass.all library config).filter fun pass => pass.rule = rule) = [pass])
    (hreach : pass.reach ≠ .unreleasedEntry) :
    (((Linter.standard library config).run snapshot).findings.filter fun finding =>
        finding.IsOn entry.version family kind) =
      (pass.about entry family).filter fun finding => finding.context.artifact = some kind := by
  have hone : ∀ finding ∈ ((Linter.standard library config).run snapshot).findings,
      decide (finding.IsOn entry.version family kind) = true → finding.rule = rule := by
    intro finding h hon
    exact rule_eq_of_isOn hentry honce hfamily hrule hproblem h (of_decide_eq_true hon)
  have hsplit : (fun finding : Finding => decide (finding.IsOn entry.version family kind)) =
      fun finding => decide (finding.context.artifact = some kind) &&
        decide (finding.IsAbout entry.version family) := by
    funext finding
    rw [Bool.and_comm, ← Bool.decide_and]
    rfl
  rw [Pass.filter_eq_of_rule hone, hpass, List.flatMap_singleton, hsplit, ← List.filter_filter,
    Pass.filter_isAbout_eq, Pass.entries_eq_versions hreach,
    CorpusSnapshot.filter_version_eq hentry honce, List.flatMap_singleton]

/-- Of a version without a directory and without families, one thing is said. -/
theorem filter_version_of_absent (library : SchemaLibrary) (config : Config)
    (hentry : entry ∈ snapshot.versions)
    (honce : (snapshot.versions.map (·.version)).count entry.version = 1)
    (hpresent : entry.present = false) (hfamilies : entry.families.entries = []) :
    (((Linter.standard library config).run snapshot).findings.filter fun finding =>
        finding.context.version = some entry.version) = [absentVersion entry.version] := by
  have hone : ∀ finding ∈ ((Linter.standard library config).run snapshot).findings,
      decide (finding.context.version = some entry.version) = true →
        finding.rule = .jsonSchemaSyntax := by
    intro finding h hversion
    obtain ⟨pass, -, h⟩ := exists_pass_of_mem hentry honce h (of_decide_eq_true hversion)
    rcases Pass.isBy_or_absent_of_mem h with ⟨row, hrow, -, -⟩ | ⟨-, rfl⟩
    · rw [hfamilies] at hrow
      cases hrow
    · rfl
  have hpasses : ((Pass.all library config).filter fun pass => pass.rule = .jsonSchemaSyntax) =
      [⟨.jsonSchemaSyntax, .presentEntries, jsonSchemaState, isBy_jsonSchemaState⟩] := rfl
  rw [Pass.filter_eq_of_rule hone, hpasses, List.flatMap_singleton, Pass.filter_version_eq,
    Pass.entries_eq_versions (by decide), CorpusSnapshot.filter_version_eq hentry honce,
    List.flatMap_singleton]
  unfold Pass.inEntry
  rw [hpresent]

end

theorem Corpus.entries_of_absent (corpus : Corpus) (readers : Readers) {version : VersionTag}
    (h : (corpus.snapshotVersion readers version).present = false) :
    (corpus.snapshotVersion readers version).families.entries = [] := by
  unfold Corpus.snapshotVersion at h ⊢
  split at h
  · cases h
  · rename_i hversion
    rw [if_neg hversion]
    rfl

/-- In an entry whose version occurs once, a schema or an interface that is missing is one warning
of its rule of syntax, one that is malformed is one error, and nothing else is said of it; an absent
version, which is loaded without families, is one warning, which names no family. -/
theorem load_problem_reported_once (library : SchemaLibrary) (config : Config)
    {snapshot : CorpusSnapshot} {entry : VersionSnapshot} (hentry : entry ∈ snapshot.versions)
    (honce : (snapshot.versions.map (·.version)).count entry.version = 1) :
    (entry.present = true →
      ∀ {family : Family} {artifacts : FamilyArtifacts} {kind : ArtifactKind} {rule : RuleId}
          {severity : Severity}, entry.families.get? family = some artifacts →
        kind.syntaxRule? = some rule → artifacts.problem? kind = some severity →
        ∃ finding, (((Linter.standard library config).run snapshot).findings.filter fun finding =>
            finding.IsOn entry.version family kind) = [finding] ∧
          finding.rule = rule ∧ finding.severity = severity) ∧
    (entry.present = false → entry.families.entries = [] →
      ∃ finding, (((Linter.standard library config).run snapshot).findings.filter fun finding =>
          finding.context.version = some entry.version) = [finding] ∧
        finding.severity = .warning ∧ finding.context.spec = none) ∧
    ∀ (corpus : Corpus) (readers : Readers) (version : VersionTag),
      (corpus.snapshotVersion readers version).present = false →
        (corpus.snapshotVersion readers version).families.entries = [] := by
  refine ⟨?_, ?_, fun corpus readers version => corpus.entries_of_absent readers⟩
  · intro hpresent family artifacts kind rule severity hfamily hrule hproblem
    obtain ⟨pass, hpass, hreach, hsays⟩ := Pass.exists_syntaxPass library config hrule
    obtain ⟨finding, hfound, hkind, hseverity⟩ :=
      hsays entry.version family artifacts severity hproblem
    have hvisits : pass.Visits entry := fun _ => hpresent
    have habout : pass.about entry family = [finding] := by
      rw [Pass.about, if_pos hvisits, hfamily, Option.toList_some, List.flatMap_singleton, hfound]
    have hfilter : (((Linter.standard library config).run snapshot).findings.filter fun finding =>
        finding.IsOn entry.version family kind) = [finding] := by
      rw [filter_isOn_eq hentry honce hfamily hrule hproblem hpass hreach, habout,
        List.filter_singleton, hkind, decide_eq_true rfl, cond_true]
    have hmem : finding ∈ ((Linter.standard library config).run snapshot).findings.filter
        fun finding => finding.IsOn entry.version family kind :=
      hfilter ▸ List.mem_singleton_self finding
    obtain ⟨hrun, hon⟩ := List.mem_filter.1 hmem
    exact ⟨finding, hfilter,
      rule_eq_of_isOn hentry honce hfamily hrule hproblem hrun (of_decide_eq_true hon), hseverity⟩
  · intro hpresent hfamilies
    exact ⟨absentVersion entry.version,
      filter_version_of_absent library config hentry honce hpresent hfamilies, rfl, rfl⟩

/-- An entry with one family. -/
def checkoutEntry (artifacts : FamilyArtifacts) : VersionSnapshot :=
  ⟨.unreleased, true, FamilyTable.empty.insert .agenticCheckout artifacts⟩

theorem get?_checkoutEntry (artifacts : FamilyArtifacts) :
    (checkoutEntry artifacts).families.get? .agenticCheckout = some artifacts := by
  rw [checkoutEntry, FamilyTable.get?_insert, if_pos rfl]

/-- The schema of checkouts is malformed, their interface is missing; another version is absent. -/
theorem load_problem_reported_once_checkout :
    let absent : VersionTag := ⟨"2026-01-30", isVersionText_newest⟩
    let broken : FamilyArtifacts := ⟨.malformed (.notAnObject "array"), .missing, .missing⟩
    let snapshot : CorpusSnapshot := ⟨[checkoutEntry broken, ⟨absent, false, .empty⟩]⟩
    let findings := ((Linter.standard .builtIn .standard).run snapshot).findings
    (∃ finding, (findings.filter fun finding =>
          finding.IsOn .unreleased .agenticCheckout .jsonSchema) = [finding] ∧
        finding.rule = .jsonSchemaSyntax ∧ finding.severity = .error) ∧
      (∃ finding, (findings.filter fun finding =>
          finding.IsOn .unreleased .agenticCheckout .openApi) = [finding] ∧
        finding.rule = .openApiSyntax ∧ finding.severity = .warning) ∧
      ∃ finding, (findings.filter fun finding =>
          finding.context.version = some absent) = [finding] ∧
        finding.severity = .warning ∧ finding.context.spec = none := by
  intro absent broken snapshot findings
  have hpresent : _ ∈ snapshot.versions := List.mem_cons_self
  have habsent : _ ∈ snapshot.versions := List.mem_cons_of_mem _ List.mem_cons_self
  obtain ⟨hproblems, -⟩ := load_problem_reported_once .builtIn .standard hpresent (by decide +kernel)
  obtain ⟨-, hwarned, -⟩ := load_problem_reported_once .builtIn .standard habsent (by decide +kernel)
  have hfamily := get?_checkoutEntry broken
  exact ⟨hproblems rfl hfamily rfl rfl, hproblems rfl hfamily rfl rfl, hwarned rfl rfl⟩

/-! ### Malformed artifacts -/

/-- There is a file, but it cannot be read. -/
def Artifact.IsMalformed {α : Type} (artifact : Artifact α) : Prop :=
  ∃ error, artifact = .malformed error

theorem Artifact.problem?_of_isMalformed {α : Type} {artifact : Artifact α}
    (h : artifact.IsMalformed) : artifact.problem? = some .error := by
  obtain ⟨error, rfl⟩ := h
  rfl

section

variable {library : SchemaLibrary} {config : Config} {snapshot : CorpusSnapshot}
  {entry : VersionSnapshot} {family : Family} {artifacts : FamilyArtifacts}

/-- What a pass that reaches every entry finds in a family of a version, a run reports. -/
theorem mem_run_of_mem_inFamily (hentry : entry ∈ snapshot.versions)
    (hpresent : entry.present = true) (hfamily : entry.families.get? family = some artifacts)
    {pass : Pass} (hpass : pass ∈ Pass.all library config) (hreach : pass.reach ≠ .unreleasedEntry)
    {finding : Finding} (h : finding ∈ pass.inFamily entry.version family artifacts) :
    finding ∈ ((Linter.standard library config).run snapshot).findings := by
  have hreached : entry ∈ pass.entries config snapshot := by
    rw [Pass.entries_eq_versions hreach]
    exact hentry
  have hfound : finding ∈ pass.findings config snapshot :=
    Pass.mem_findings_of_mem_inFamily hreached (fun _ => hpresent) hfamily h
  rw [Pass.findings_standard]
  exact List.mem_flatMap.2 ⟨pass, hpass, hfound⟩

/-- A run reports an error about a family of a version. -/
def ReportsError (library : SchemaLibrary) (config : Config) (snapshot : CorpusSnapshot)
    (version : VersionTag) (family : Family) : Prop :=
  ∃ finding ∈ ((Linter.standard library config).run snapshot).findings,
    finding.IsAbout version family ∧ finding.severity = .error

theorem ReportsError.outcome_eq_fail {version : VersionTag}
    (h : ReportsError library config snapshot version family) :
    ((Linter.standard library config).run snapshot).outcome = .fail := by
  obtain ⟨finding, hfinding, -, hseverity⟩ := h
  have herror : finding.isError = true := by
    rw [Finding.isError, hseverity]
    rfl
  rw [Pass.findings_standard] at hfinding
  exact (Pass.holds_standard library config snapshot).outcome_eq_fail_iff.2 ⟨finding, hfinding, herror⟩

theorem reportsError_of_problem (library : SchemaLibrary) (config : Config)
    (hentry : entry ∈ snapshot.versions) (hpresent : entry.present = true)
    (hfamily : entry.families.get? family = some artifacts)
    (kind : ArtifactKind) {rule : RuleId} (hrule : kind.syntaxRule? = some rule)
    (hproblem : artifacts.problem? kind = some .error) :
    ReportsError library config snapshot entry.version family := by
  obtain ⟨pass, hpass, hreach, hsays⟩ := Pass.exists_syntaxPass library config hrule
  obtain ⟨finding, hfound, -, hseverity⟩ := hsays entry.version family artifacts .error hproblem
  have hmem : pass ∈ (Pass.all library config).filter fun pass => pass.rule = rule :=
    hpass ▸ List.mem_singleton_self pass
  have hfinding : finding ∈ pass.inFamily entry.version family artifacts :=
    hfound ▸ List.mem_singleton_self finding
  have hrun := mem_run_of_mem_inFamily hentry hpresent hfamily (List.mem_filter.1 hmem).1 hreach
    hfinding
  exact ⟨finding, hrun, (pass.isBy hfinding).about, hseverity⟩

theorem reportsError_of_examples (library : SchemaLibrary) (config : Config)
    (hentry : entry ∈ snapshot.versions) (hpresent : entry.present = true)
    (hfamily : entry.families.get? family = some artifacts)
    {document : JsonSchemaDocument} (hschema : artifacts.jsonSchema = .parsed document)
    (hexamples : artifacts.examples.IsMalformed) :
    ReportsError library config snapshot entry.version family := by
  obtain ⟨error, hexamples⟩ := hexamples
  let pass : Pass :=
    ⟨.exampleConformance, .everyEntry, familyExamples library config, isBy_familyExamples⟩
  have hpass : pass ∈ Pass.all library config := by simp [Pass.all, pass]
  have hreach : pass.reach ≠ .unreleasedEntry := by simp [pass]
  let finding : Finding := .error .exampleConformance
    ("Invalid examples file for " ++ coordinates entry.version family ++ ": " ++ error.message)
    (Context.ofArtifact entry.version family .examples)
  have hfound : pass.inFamily entry.version family artifacts = [finding] := by
    show familyExamples library config entry.version family artifacts = [finding]
    rw [familyExamples, hschema, hexamples]
    rfl
  have hfinding : finding ∈ pass.inFamily entry.version family artifacts :=
    hfound ▸ List.mem_singleton_self finding
  exact ⟨finding, mem_run_of_mem_inFamily hentry hpresent hfamily hpass hreach hfinding,
    ⟨rfl, rfl⟩, rfl⟩

end

/-- A malformed artifact of a version with a directory makes a run fail, with an error about its
family, unless it is an example set beside a missing schema. -/
theorem run_fails_of_malformed (library : SchemaLibrary) (config : Config)
    {snapshot : CorpusSnapshot} {entry : VersionSnapshot} {family : Family}
    {artifacts : FamilyArtifacts} (hentry : entry ∈ snapshot.versions)
    (hpresent : entry.present = true) (hfamily : entry.families.get? family = some artifacts)
    (hmalformed : artifacts.jsonSchema.IsMalformed ∨ artifacts.openApi.IsMalformed ∨
      artifacts.examples.IsMalformed)
    (hnoticed : artifacts.jsonSchema = .missing → artifacts.openApi.IsMalformed) :
    ((Linter.standard library config).run snapshot).outcome = .fail ∧
      ((Linter.standard library config).run snapshot).exitCode = 1 ∧
      ReportsError library config snapshot entry.version family := by
  have hinterface : artifacts.openApi.IsMalformed →
      ReportsError library config snapshot entry.version family := fun h =>
    reportsError_of_problem library config hentry hpresent hfamily .openApi rfl
      (Artifact.problem?_of_isMalformed h)
  have herror : ReportsError library config snapshot entry.version family := by
    -- Whether examples are looked at depends on what became of the schema.
    cases hschema : artifacts.jsonSchema with
    | malformed error =>
        exact reportsError_of_problem library config hentry hpresent hfamily .jsonSchema rfl
          (Artifact.problem?_of_isMalformed ⟨error, hschema⟩)
    | missing => exact hinterface (hnoticed hschema)
    | parsed document =>
        rcases hmalformed with ⟨error, hmalformed⟩ | hmalformed | hmalformed
        · cases hschema.symm.trans hmalformed
        · exact hinterface hmalformed
        · exact reportsError_of_examples library config hentry hpresent hfamily hschema hmalformed
  have hfail := herror.outcome_eq_fail
  refine ⟨hfail, ?_, herror⟩
  rw [Report.exitCode, hfail]
  rfl

/-- Checkouts fail by their examples, which stand beside a schema, and by their interface. -/
theorem run_fails_of_malformed_checkout :
    let examples : FamilyArtifacts :=
      ⟨.parsed dialectAlone, .missing, .malformed (.notAnObject "array")⟩
    let interface : FamilyArtifacts :=
      ⟨.missing, .malformed (.notAnObject "array"), .malformed (.notAnObject "array")⟩
    (examples.examples.IsMalformed ∧
        ((Linter.standard .builtIn .standard).run ⟨[checkoutEntry examples]⟩).outcome = .fail ∧
        ((Linter.standard .builtIn .standard).run ⟨[checkoutEntry examples]⟩).exitCode = 1) ∧
      interface.openApi.IsMalformed ∧
        ((Linter.standard .builtIn .standard).run ⟨[checkoutEntry interface]⟩).outcome = .fail ∧
        ((Linter.standard .builtIn .standard).run ⟨[checkoutEntry interface]⟩).exitCode = 1 := by
  intro examples interface
  have hexamples : examples.examples.IsMalformed := ⟨_, rfl⟩
  have hinterface : interface.openApi.IsMalformed := ⟨_, rfl⟩
  obtain ⟨hfail, hexit, -⟩ :=
    run_fails_of_malformed .builtIn .standard (List.mem_singleton_self _) rfl
      (get?_checkoutEntry examples) (Or.inr (Or.inr hexamples)) fun h => by cases h
  obtain ⟨hfail', hexit', -⟩ :=
    run_fails_of_malformed .builtIn .standard (List.mem_singleton_self _) rfl
      (get?_checkoutEntry interface) (Or.inr (Or.inl hinterface)) fun _ => hinterface
  exact ⟨⟨hexamples, hfail, hexit⟩, hinterface, hfail', hexit'⟩

/-- An interface with the required keys. -/
def plainInterface : OpenApiDocument :=
  ⟨[("info", .object [("title", .string "t")]), ("openapi", .string "3.1.0"),
      ("paths", .object [])],
    by decide +kernel, ⟨.cons (by simp) .nil, trivial, trivial⟩, trivial, ⟨.nil, trivial⟩, trivial⟩

/-- Examples that cannot be read go unnoticed beside a missing schema. -/
theorem run_passes_of_malformed_examples :
    let unnoticed : FamilyArtifacts :=
      ⟨.missing, .parsed plainInterface, .malformed (.notAnObject "array")⟩
    let snapshot : CorpusSnapshot := ⟨[checkoutEntry unnoticed]⟩
    (checkoutEntry unnoticed).present = true ∧
      (checkoutEntry unnoticed).families.get? .agenticCheckout = some unnoticed ∧
      unnoticed.examples.IsMalformed ∧
      ((Linter.standard .builtIn .standard).run snapshot).outcome = .passWithWarnings ∧
      ((Linter.standard .builtIn .standard).run snapshot).exitCode = 0 := by
  intro unnoticed snapshot
  exact ⟨rfl, get?_checkoutEntry unnoticed, ⟨_, rfl⟩, by decide +kernel, by decide +kernel⟩

/-! ### Examples that are not read

Where the schema of a family was not read, nothing is said of its examples, whatever they are. -/

/-- The artifacts of a family are the same, but for examples beside a schema that was not read. -/
structure FamilyArtifacts.SameRead (a b : FamilyArtifacts) : Prop where
  jsonSchema_eq : a.jsonSchema = b.jsonSchema
  openApi_eq : a.openApi = b.openApi
  examples_eq : a.jsonSchema.document?.isSome = true → a.examples = b.examples

/-- The families of an entry have the same artifacts, but for examples that are not read. -/
structure VersionSnapshot.SameRead (a b : VersionSnapshot) : Prop where
  version_eq : a.version = b.version
  present_eq : a.present = b.present
  rows : List.Forall₂ (fun x y => x.1 = y.1 ∧ x.2.SameRead y.2) a.families.entries
    b.families.entries

namespace Pass

variable {library : SchemaLibrary} {config : Config} {pass : Pass}

theorem inFamily_eq_of_sameRead (hpass : pass ∈ all library config) {a b : FamilyArtifacts}
    (h : a.SameRead b) (version : VersionTag) (family : Family) :
    pass.inFamily version family a = pass.inFamily version family b := by
  obtain ⟨schema, interface, examples⟩ := a
  obtain ⟨schema', interface', others⟩ := b
  obtain rfl : schema = schema' := h.jsonSchema_eq
  obtain rfl : interface = interface' := h.openApi_eq
  -- Conformance is the one pass that looks at examples.
  have hexamples : familyExamples library config version family ⟨schema, interface, examples⟩ =
      familyExamples library config version family ⟨schema, interface, others⟩ := by
    cases schema with
    | parsed document =>
        obtain rfl : examples = others := h.examples_eq rfl
        rfl
    | missing | malformed _ => rfl
  cases hpass using all_cases with
  | conformance => exact hexamples
  | _ => rfl

theorem inEntry_eq_of_sameRead (hpass : pass ∈ all library config) {a b : VersionSnapshot}
    (h : a.SameRead b) : pass.inEntry a = pass.inEntry b := by
  have hrows : List.Forall₂ Eq (a.inFamilies (pass.inFamily a.version))
      (b.inFamilies (pass.inFamily b.version)) := by
    refine List.rel_flatMap h.rows fun x y hxy => ?_
    rw [List.forall₂_eq_eq_eq]
    show pass.inFamily a.version x.1 x.2 = pass.inFamily b.version y.1 y.2
    rw [inFamily_eq_of_sameRead hpass hxy.2, hxy.1, h.version_eq]
  rw [List.forall₂_eq_eq_eq] at hrows
  unfold inEntry
  rw [h.present_eq, hrows, h.version_eq]

theorem findings_eq_of_sameRead (hpass : pass ∈ all library config) {s t : CorpusSnapshot}
    (h : List.Forall₂ VersionSnapshot.SameRead s.versions t.versions) :
    pass.findings config s = pass.findings config t := by
  have hentries := pass.forall₂_entries (fun _ _ hab => hab.version_eq) h config
  have hfound : List.Forall₂ Eq (pass.findings config s) (pass.findings config t) := by
    refine List.rel_flatMap hentries fun a b hab => ?_
    rw [List.forall₂_eq_eq_eq]
    exact inEntry_eq_of_sameRead hpass hab
  rwa [List.forall₂_eq_eq_eq] at hfound

end Pass

/-- Snapshots that differ in examples that are not read have the same report. -/
theorem run_eq_of_unread_examples (library : SchemaLibrary) (config : Config) {s t : CorpusSnapshot}
    (h : List.Forall₂ VersionSnapshot.SameRead s.versions t.versions) :
    (Linter.standard library config).run s = (Linter.standard library config).run t := by
  have hfindings : ((Pass.all library config).flatMap fun pass => pass.findings config s) =
      (Pass.all library config).flatMap fun pass => pass.findings config t :=
    List.flatMap_congr fun pass hpass => Pass.findings_eq_of_sameRead hpass h
  have hs := Pass.holds_standard library config s
  rw [hfindings] at hs
  exact hs.report_eq (Pass.holds_standard library config t)

end SpecLint
