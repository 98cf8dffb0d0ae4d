import SpecLint.Proofs.Pass

/-!
What a run finds at one place. A finding of a run bears the name of the rule that made it
(`rule_eq_of_mem`), of the version of the entry and of the family where it was made; so the findings
of a run that bear some of these names are what the passes concerned find there, and nothing else
(`filter_rule_eq`, `filter_version_eq`, `filter_isAbout_eq`).
-/

namespace SpecLint

open Rule

namespace Pass

variable {library : SchemaLibrary} {config : Config} {snapshot : CorpusSnapshot}
  {entry : VersionSnapshot} {pass : Pass} {finding : Finding}

/-! ### Entries

A pass looks into the families of an entry, unless the entry is absent and the pass says so. -/

/-- Whether a pass looks into the families of an entry. -/
def Visits (pass : Pass) (entry : VersionSnapshot) : Prop :=
  pass.reach = .presentEntries → entry.present = true

instance (pass : Pass) (entry : VersionSnapshot) : Decidable (pass.Visits entry) :=
  inferInstanceAs (Decidable (_ → _))

theorem visits_of_reach_ne (h : pass.reach ≠ .presentEntries) : pass.Visits entry :=
  fun hreach => absurd hreach h

theorem inEntry_eq (pass : Pass) (entry : VersionSnapshot) :
    pass.inEntry entry =
      if pass.Visits entry then entry.inFamilies (pass.inFamily entry.version)
      else [absentVersion entry.version] := by
  cases hreach : pass.reach <;> cases hpresent : entry.present <;>
    simp [inEntry, Visits, hreach, hpresent]

theorem mem_versions_of_mem_entries (h : entry ∈ pass.entries config snapshot) :
    entry ∈ snapshot.versions := by
  unfold entries at h
  split at h
  · exact h
  · exact h
  · exact List.mem_of_find?_eq_some (Option.mem_toList.1 h)

theorem entries_eq_versions (h : pass.reach ≠ .unreleasedEntry) :
    pass.entries config snapshot = snapshot.versions := by
  unfold entries
  cases hreach : pass.reach with
  | everyEntry | presentEntries => rfl
  | unreleasedEntry => exact absurd hreach h

/-- What a pass finds in a family of an entry, it finds in the snapshot. -/
theorem mem_findings_of_mem_inFamily {family : Family} {artifacts : FamilyArtifacts}
    (hentry : entry ∈ pass.entries config snapshot) (hvisits : pass.Visits entry)
    (hfamily : entry.families.get? family = some artifacts)
    (h : finding ∈ pass.inFamily entry.version family artifacts) :
    finding ∈ pass.findings config snapshot := by
  refine List.mem_flatMap.2 ⟨entry, hentry, ?_⟩
  rw [inEntry_eq, if_pos hvisits]
  exact List.mem_flatMap.2 ⟨(family, artifacts), FamilyTable.get?_eq_some_iff.1 hfamily, h⟩

/-- Where a pass reaches every entry, it finds things in families alone. -/
theorem exists_row_of_mem (hreach : pass.reach = .everyEntry)
    (h : finding ∈ pass.findings config snapshot) :
    ∃ version family artifacts, finding ∈ pass.inFamily version family artifacts := by
  obtain ⟨entry, -, h⟩ := List.mem_flatMap.1 h
  rcases isBy_or_absent_of_mem h with ⟨row, -, hfound, -⟩ | ⟨hpresent, -⟩
  · exact ⟨entry.version, row.1, row.2, hfound⟩
  · cases hreach.symm.trans hpresent

/-! ### Rules -/

theorem rule_of_presentEntries (hpass : pass ∈ all library config)
    (h : pass.reach = .presentEntries) : pass.rule = .jsonSchemaSyntax := by
  cases hpass using all_cases with
  | schemaSyntax => rfl
  | _ => cases h

theorem rule_eq_of_mem_inEntry (hpass : pass ∈ all library config)
    (h : finding ∈ pass.inEntry entry) : finding.rule = pass.rule := by
  rcases isBy_or_absent_of_mem h with ⟨_, -, -, hby⟩ | ⟨hreach, rfl⟩
  · exact hby.rule_eq
  · exact (rule_of_presentEntries hpass hreach).symm

/-- What a pass of a full run finds bears the name of its rule. -/
theorem rule_eq_of_mem (hpass : pass ∈ all library config)
    (h : finding ∈ pass.findings config snapshot) : finding.rule = pass.rule := by
  obtain ⟨entry, -, h⟩ := List.mem_flatMap.1 h
  exact rule_eq_of_mem_inEntry hpass h

/-- A finding of a run is one of a rule just when it bears its name. -/
theorem mem_check_iff (h : finding ∈ ((Linter.standard library config).run snapshot).findings)
    {rule : Rule} (hrule : rule ∈ Rule.all library) :
    finding ∈ rule.check snapshot config ↔ finding.rule = rule.id := by
  rw [check_eq hrule, List.mem_flatMap]
  constructor
  · rintro ⟨pass, hpass, hfound⟩
    obtain ⟨hpass, hid⟩ := List.mem_filter.1 hpass
    rw [rule_eq_of_mem hpass hfound]
    exact of_decide_eq_true hid
  · intro hid
    rw [findings_standard] at h
    obtain ⟨pass, hpass, hfound⟩ := List.mem_flatMap.1 h
    have hown : pass.rule = rule.id := (rule_eq_of_mem hpass hfound).symm.trans hid
    exact ⟨pass, List.mem_filter.2 ⟨hpass, decide_eq_true hown⟩, hfound⟩

theorem filter_rule_eq (library : SchemaLibrary) (config : Config) (snapshot : CorpusSnapshot)
    (rule : RuleId) :
    (((Linter.standard library config).run snapshot).findings.filter fun finding =>
        finding.rule = rule) =
      ((all library config).filter fun pass => pass.rule = rule).flatMap fun pass =>
        pass.findings config snapshot := by
  rw [findings_standard]
  refine filter_flatMap_of_parts fun pass hpass finding hfinding => ?_
  rw [rule_eq_of_mem hpass hfinding]

/-- Findings that can only be those of one rule are found by its passes. -/
theorem filter_eq_of_rule {keep : Finding → Bool} {rule : RuleId}
    (h : ∀ finding ∈ ((Linter.standard library config).run snapshot).findings,
      keep finding = true → finding.rule = rule) :
    ((Linter.standard library config).run snapshot).findings.filter keep =
      (((all library config).filter fun pass => pass.rule = rule).flatMap fun pass =>
        pass.findings config snapshot).filter keep := by
  rw [← filter_rule_eq, List.filter_filter]
  refine List.filter_congr fun finding hfinding => ?_
  cases hkeep : keep finding with
  | false => rfl
  | true => rw [h finding hfinding hkeep, decide_eq_true rfl, Bool.and_self]

/-! ### Versions and families -/

theorem filter_version_eq (pass : Pass) (config : Config) (snapshot : CorpusSnapshot)
    (version : VersionTag) :
    ((pass.findings config snapshot).filter fun finding =>
        finding.context.version = some version) =
      ((pass.entries config snapshot).filter fun entry => entry.version = version).flatMap
        pass.inEntry := by
  refine filter_flatMap_of_parts fun entry _ finding hfinding => ?_
  simp only [version_eq_of_mem_inEntry hfinding, Option.some.injEq]

/-- What a pass finds in an entry about one family. -/
def about (pass : Pass) (entry : VersionSnapshot) (family : Family) : List Finding :=
  if pass.Visits entry then
    (entry.families.get? family).toList.flatMap (pass.inFamily entry.version family)
  else []

theorem filter_inEntry_isAbout (pass : Pass) (entry : VersionSnapshot) (family : Family) :
    ((pass.inEntry entry).filter fun finding => finding.IsAbout entry.version family) =
      pass.about entry family := by
  rw [inEntry_eq]
  unfold about
  split
  · have hrows : ((entry.inFamilies (pass.inFamily entry.version)).filter fun finding =>
          finding.IsAbout entry.version family) =
        (entry.families.entries.filter fun row => row.1 = family).flatMap fun row =>
          pass.inFamily entry.version row.1 row.2 := by
      refine filter_flatMap_of_parts fun row _ finding hfinding => ?_
      obtain ⟨hversion, hspec⟩ := (pass.isBy hfinding).about
      simp only [Finding.IsAbout, hversion, hspec, Option.some.injEq, true_and]
    rw [hrows, FamilyTable.filter_entries_family, List.flatMap_map]
  · -- That a version is absent is said about no family.
    simp [Finding.IsAbout, absentVersion, Finding.warning, Context.inVersion]

theorem filter_isAbout_eq (pass : Pass) (config : Config) (snapshot : CorpusSnapshot)
    (version : VersionTag) (family : Family) :
    ((pass.findings config snapshot).filter fun finding => finding.IsAbout version family) =
      ((pass.entries config snapshot).filter fun entry => entry.version = version).flatMap
        fun entry => pass.about entry family := by
  have hsplit : (fun finding : Finding => decide (finding.IsAbout version family)) =
      fun finding => decide (finding.IsAbout version family) &&
        decide (finding.context.version = some version) := by
    funext finding
    by_cases h : finding.context.version = some version <;> simp [Finding.IsAbout, h]
  rw [hsplit, ← List.filter_filter, filter_version_eq, List.filter_flatMap]
  refine List.flatMap_congr fun entry hentry => ?_
  obtain rfl : entry.version = version := by simpa using (List.mem_filter.1 hentry).2
  exact filter_inEntry_isAbout pass entry family

theorem filter_isAbout_of_everyEntry (h : pass.reach = .everyEntry) (config : Config)
    (snapshot : CorpusSnapshot) (version : VersionTag) (family : Family) :
    ((pass.findings config snapshot).filter fun finding => finding.IsAbout version family) =
      (snapshot.versions.filter fun entry => entry.version = version).flatMap fun entry =>
        (entry.families.get? family).toList.flatMap (pass.inFamily version family) := by
  have hreach : pass.reach ≠ .unreleasedEntry := by simp [h]
  rw [filter_isAbout_eq, entries_eq_versions hreach]
  refine List.flatMap_congr fun entry hentry => ?_
  obtain rfl : entry.version = version := by simpa using (List.mem_filter.1 hentry).2
  rw [about, if_pos (visits_of_reach_ne (by simp [h]))]

end Pass

end SpecLint
