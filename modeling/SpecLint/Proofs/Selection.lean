import SpecLint.BuiltIn
import SpecLint.Proofs.Pass

/-!
Selection of versions: a run over requested versions finds what a run over all versions finds about
these. An entry of a snapshot depends on its version alone, so a request leaves out entries
(`entries_snapshot_filter`); and every finding names the version of the entry in which it was found,
so leaving out entries is leaving out findings (`findings_snapshot_filter`).
-/

namespace SpecLint

/-- The rules for authors, which look at the version that is still edited and at no other. -/
def RuleId.authoring : List RuleId :=
  [.fieldDescription, .modelExample, .openApiDescription, .openApiExample]

/-- The root of the corpus is a directory with a directory of specifications in it. -/
structure Corpus.IsUsable (corpus : Corpus) : Prop where
  root : corpus.files.isDirectory corpus.root = true
  spec : corpus.files.isDirectory (corpus.root.join "spec") = true

@[simp] theorem Corpus.version_snapshotVersion (corpus : Corpus) (readers : Readers)
    (version : VersionTag) : (corpus.snapshotVersion readers version).version = version := by
  unfold snapshotVersion
  split <;> rfl

theorem Corpus.version?_snapshot (corpus : Corpus) (readers : Readers) (versions : List VersionTag)
    (tag : VersionTag) :
    (corpus.snapshot readers versions).version? tag =
      if tag ∈ versions then some (corpus.snapshotVersion readers tag) else none := by
  -- Entries of one version are equal, so it does not matter which of them is met first.
  have hfind : versions.find? (· == tag) = if tag ∈ versions then some tag else none := by
    induction versions with
    | nil => rfl
    | cons version versions ih =>
        rw [List.find?_cons]
        by_cases h : version = tag
        · simp [h]
        · rw [beq_eq_false_iff_ne.2 h, ih]
          simp [Ne.symm h]
  have hmap : (corpus.snapshot readers versions).version? tag =
      (versions.find? (· == tag)).map (corpus.snapshotVersion readers) := by
    simp only [snapshot, CorpusSnapshot.version?, List.find?_map, Function.comp_def,
      version_snapshotVersion]
  rw [hmap, hfind]
  split <;> rfl

namespace Pass

theorem entries_snapshot_filter (pass : Pass) (config : Config) (corpus : Corpus)
    (readers : Readers) (versions : List VersionTag) (keep : VersionTag → Bool) :
    pass.entries config (corpus.snapshot readers (versions.filter keep)) =
      (pass.entries config (corpus.snapshot readers versions)).filter fun entry =>
        keep entry.version := by
  unfold entries
  cases pass.reach with
  | everyEntry | presentEntries =>
      simp [Corpus.snapshot, List.filter_map, Function.comp_def]
  | unreleasedEntry =>
      -- The version that is still edited is looked up; it is there if it is listed and kept.
      simp only [Corpus.version?_snapshot, List.mem_filter]
      by_cases hmem : config.unreleased ∈ versions
      · cases hkeep : keep config.unreleased <;> simp [hmem, hkeep]
      · simp [hmem]

theorem findings_snapshot_filter (pass : Pass) (config : Config) (corpus : Corpus)
    (readers : Readers) (versions : List VersionTag) (keep : VersionTag → Bool) :
    pass.findings config (corpus.snapshot readers (versions.filter keep)) =
      (pass.findings config (corpus.snapshot readers versions)).filter fun finding =>
        finding.context.version.any keep := by
  unfold findings
  rw [entries_snapshot_filter]
  refine (filter_flatMap_of_parts fun entry _ finding hfinding => ?_).symm
  rw [version_eq_of_mem_inEntry hfinding, Option.any_some]

variable {library : SchemaLibrary} {config : Config} {pass : Pass}

theorem reach_of_authoring (h : pass ∈ all library config)
    (hrule : pass.rule ∈ RuleId.authoring) : pass.reach = .unreleasedEntry := by
  cases h using all_cases with
  | schemaDescriptions | modelExamples | interfaceDescriptions | objectExamples => rfl
  | _ => exact absurd hrule (by simp [RuleId.authoring])

theorem authoring_of_reach (h : pass ∈ all library config)
    (hreach : pass.reach = .unreleasedEntry) : pass.rule ∈ RuleId.authoring := by
  cases h using all_cases with
  | schemaDescriptions | modelExamples | interfaceDescriptions | objectExamples =>
      simp [RuleId.authoring]
  | _ => cases hreach

/-- Where the version that is still edited is not looked at, no rule for authors has a finding. -/
theorem rule_notMem_authoring {snapshot : CorpusSnapshot}
    (hnone : snapshot.version? config.unreleased = none) (hpass : pass ∈ all library config)
    {finding : Finding} (h : finding ∈ pass.findings config snapshot) :
    finding.rule ∉ RuleId.authoring := by
  intro hrule
  obtain ⟨entry, hentry, hfinding⟩ := List.mem_flatMap.1 h
  rcases isBy_or_absent_of_mem hfinding with ⟨_, -, -, hby⟩ | ⟨-, rfl⟩
  · rw [hby.rule_eq] at hrule
    unfold entries at hentry
    rw [reach_of_authoring hpass hrule, hnone] at hentry
    cases hentry
  · exact absurd hrule (by simp [RuleId.authoring, Rule.absentVersion, Finding.warning])

end Pass

/-! ### Requests -/

theorem Config.validate_eq_ok_iff {config : Config} :
    config.validate = .ok () ↔ config.unreleased ∈ config.versions := by
  unfold validate
  cases hversions : config.versions with
  | nil => simp
  | cons version versions =>
      simp only [List.isEmpty_cons, Bool.false_eq_true, if_false, List.contains_eq_mem,
        decide_eq_true_eq]
      split <;> simp [*]

theorem Config.selectVersions_of_configured {config : Config} {requested : List VersionTag}
    (hrequested : requested ≠ []) (hknown : ∀ tag ∈ requested, tag ∈ config.versions) :
    config.selectVersions requested =
      .ok (config.versions.filter fun tag => decide (tag ∈ requested)) := by
  have hfind : (requested.find? fun tag => !config.versions.contains tag) = none :=
    List.find?_eq_none.2 fun tag htag => by simp [hknown tag htag]
  have hempty : requested.isEmpty = false := by simpa using hrequested
  have hcontains : requested.contains = fun tag => decide (tag ∈ requested) :=
    funext fun tag => List.contains_eq_mem tag requested
  rw [selectVersions, hfind]
  simp only [hempty, hcontains, Bool.false_eq_true, if_false]

/-- The report of a run is that of a full run over the selected versions. -/
theorem lintCorpus_eq_ok {libraries : Libraries} {corpus : Corpus} {config : Config}
    {requested versions : List VersionTag} (hconfig : config.validate = .ok ())
    (hroot : corpus.IsUsable) (hversions : config.selectVersions requested = .ok versions) :
    lintCorpus libraries corpus config requested =
      .ok ((Linter.standard libraries.schemas config).run
        (corpus.snapshot libraries.readers versions)) := by
  simp [lintCorpus, hconfig, hversions, hroot.root, hroot.spec]

/-- A run over requested versions finds what a run over all versions finds about these, in the same
order. How the request is written does not matter, and without the version that is still edited the
rules for authors are silent. -/
theorem lintCorpus_requested_eq_filter {libraries : Libraries} {corpus : Corpus} {config : Config}
    {requested : List VersionTag} (hconfig : config.validate = .ok ()) (hroot : corpus.IsUsable)
    (hrequested : requested ≠ []) (hknown : ∀ tag ∈ requested, tag ∈ config.versions) :
    ∃ full part, lintCorpus libraries corpus config [] = .ok full ∧
      lintCorpus libraries corpus config requested = .ok part ∧
      part.findings = (full.findings.filter fun finding =>
        finding.context.version.any fun tag => decide (tag ∈ requested)) ∧
      (∀ other, (∀ tag, tag ∈ other ↔ tag ∈ requested) →
        lintCorpus libraries corpus config other = .ok part) ∧
      (config.unreleased ∉ requested →
        ∀ finding ∈ part.findings, finding.rule ∉ RuleId.authoring) := by
  let chosen := config.versions.filter fun tag => decide (tag ∈ requested)
  have hchosen := Config.selectVersions_of_configured hrequested hknown
  refine ⟨(Linter.standard libraries.schemas config).run
      (corpus.snapshot libraries.readers config.versions),
    (Linter.standard libraries.schemas config).run (corpus.snapshot libraries.readers chosen),
    lintCorpus_eq_ok hconfig hroot rfl, lintCorpus_eq_ok hconfig hroot hchosen, ?_, ?_, ?_⟩
  · rw [Pass.findings_standard, Pass.findings_standard, List.filter_flatMap]
    exact List.flatMap_congr fun pass _ =>
      pass.findings_snapshot_filter config corpus libraries.readers config.versions _
  · intro other hother
    have hne : other ≠ [] := by
      rintro rfl
      obtain ⟨tag, htag⟩ := List.exists_mem_of_ne_nil requested hrequested
      cases (hother tag).2 htag
    have hselected := Config.selectVersions_of_configured hne fun tag htag =>
      hknown tag ((hother tag).1 htag)
    simp only [hother] at hselected
    exact lintCorpus_eq_ok hconfig hroot hselected
  · intro hunreleased finding hfinding
    rw [Pass.findings_standard] at hfinding
    obtain ⟨pass, hpass, hfinding⟩ := List.mem_flatMap.1 hfinding
    have hnone : (corpus.snapshot libraries.readers chosen).version? config.unreleased = none := by
      rw [Corpus.version?_snapshot, if_neg]
      simp [chosen, hunreleased]
    exact Pass.rule_notMem_authoring hnone hpass hfinding

/-- A corpus in which only the version that is still edited has a directory. -/
def sparseCorpus : Corpus :=
  ⟨⟨.directory [("corpus", .directory [("spec", .directory [("unreleased", .directory [])])])],
    ⟨"/"⟩⟩, ⟨"/corpus"⟩⟩

theorem isVersionText_newest : isVersionText "2026-01-30" = true := by decide +kernel

theorem isVersionText_oldest : isVersionText "2025-09-29" = true := by decide +kernel

/-- The newest version is requested twice, and before the oldest. -/
theorem lintCorpus_requested_released :
    let newest : VersionTag := ⟨"2026-01-30", isVersionText_newest⟩
    let oldest : VersionTag := ⟨"2025-09-29", isVersionText_oldest⟩
    Config.standard.validate = .ok () ∧ sparseCorpus.IsUsable ∧
      ∃ full part, lintCorpus .builtIn sparseCorpus .standard [] = .ok full ∧
        lintCorpus .builtIn sparseCorpus .standard [newest, oldest, newest] = .ok part ∧
        part.findings = (full.findings.filter fun finding =>
          finding.context.version.any fun tag => decide (tag ∈ [newest, oldest, newest])) ∧
        lintCorpus .builtIn sparseCorpus .standard [oldest, newest] = .ok part ∧
        ∀ finding ∈ part.findings, finding.rule ∉ RuleId.authoring := by
  intro newest oldest
  have hconfig : Config.standard.validate = .ok () :=
    Config.validate_eq_ok_iff.2 (by decide +kernel)
  have hroot : sparseCorpus.IsUsable := ⟨by decide +kernel, by decide +kernel⟩
  have hknown : ∀ tag ∈ [newest, oldest, newest], tag ∈ Config.standard.versions := by
    decide +kernel
  obtain ⟨full, part, hfull, hpart, hfindings, hsame, hsilent⟩ :=
    lintCorpus_requested_eq_filter hconfig hroot (by simp) hknown
  refine ⟨hconfig, hroot, full, part, hfull, hpart, hfindings, hsame _ fun tag => ?_, hsilent ?_⟩
  · simp [or_comm, or_left_comm]
  · decide +kernel

end SpecLint
