import SpecLint.BuiltIn
import SpecLint.Proofs.Pass

/-!
Isolation of faults: whatever becomes of one family of one version, the findings about everything
else are the same, in the same order. No pass carries anything from one family to the next, so this
comes down to one entry (`filter_inEntry_eq`), where the rows of the other families are the same.
-/

namespace SpecLint

/-- Two entries of a version have the same artifacts, unless it is one version, where they may
differ in one family. -/
structure VersionSnapshot.SameOutside (version : VersionTag) (family : Family)
    (a b : VersionSnapshot) : Prop where
  version_eq : a.version = b.version
  present_eq : a.present = b.present
  get?_eq : ∀ other, a.version ≠ version ∨ other ≠ family →
    a.families.get? other = b.families.get? other

/-- Two snapshots have the same entries, but for one family of one version. -/
def CorpusSnapshot.SameOutside (version : VersionTag) (family : Family) (s t : CorpusSnapshot) :
    Prop :=
  List.Forall₂ (VersionSnapshot.SameOutside version family) s.versions t.versions

namespace Pass

variable {version : VersionTag} {family : Family}

/-- What a row adds is about its family, so leaving out what is about a family leaves out rows. -/
theorem filter_inFamilies (pass : Pass) (version : VersionTag) (family : Family)
    (entry : VersionSnapshot) :
    ((entry.inFamilies (pass.inFamily entry.version)).filter fun finding =>
        ¬finding.IsAbout version family) =
      (entry.families.entries.filter fun row =>
          entry.version ≠ version ∨ row.1 ≠ family).flatMap fun row =>
        pass.inFamily entry.version row.1 row.2 := by
  refine filter_flatMap_of_parts fun row _ finding hfinding => ?_
  obtain ⟨hversion, hspec⟩ := (pass.isBy hfinding).about
  simp only [Finding.IsAbout, hversion, hspec, Option.some.injEq, not_and_or, ne_eq]

theorem filter_inEntry_eq (pass : Pass) {a b : VersionSnapshot}
    (h : a.SameOutside version family b) :
    ((pass.inEntry a).filter fun finding => ¬finding.IsAbout version family) =
      (pass.inEntry b).filter fun finding => ¬finding.IsAbout version family := by
  have hrows : (a.families.entries.filter fun row => a.version ≠ version ∨ row.1 ≠ family) =
      b.families.entries.filter fun row => a.version ≠ version ∨ row.1 ≠ family :=
    FamilyTable.filter_entries_eq (fun other => a.version ≠ version ∨ other ≠ family)
      fun other hother => h.get?_eq other (by simpa using hother)
  have hfamilies :
      ((a.inFamilies (pass.inFamily a.version)).filter fun finding =>
          ¬finding.IsAbout version family) =
        (b.inFamilies (pass.inFamily b.version)).filter fun finding =>
          ¬finding.IsAbout version family := by
    rw [filter_inFamilies, filter_inFamilies, hrows, h.version_eq]
  unfold inEntry
  rw [h.present_eq]
  cases pass.reach with
  | everyEntry | unreleasedEntry => exact hfamilies
  | presentEntries =>
      cases b.present with
      | true => exact hfamilies
      -- An absent version is reported by its tag alone, whatever its table holds.
      | false => rw [h.version_eq]

theorem filter_flatMap_inEntry_eq (pass : Pass) {as bs : List VersionSnapshot}
    (h : List.Forall₂ (VersionSnapshot.SameOutside version family) as bs) :
    ((as.flatMap pass.inEntry).filter fun finding => ¬finding.IsAbout version family) =
      (bs.flatMap pass.inEntry).filter fun finding => ¬finding.IsAbout version family := by
  induction h with
  | nil => rfl
  | cons hab _ ih =>
      rw [List.flatMap_cons, List.flatMap_cons, List.filter_append, List.filter_append,
        filter_inEntry_eq pass hab, ih]

theorem filter_findings_eq (pass : Pass) (config : Config) {s t : CorpusSnapshot}
    (h : s.SameOutside version family t) :
    ((pass.findings config s).filter fun finding => ¬finding.IsAbout version family) =
      (pass.findings config t).filter fun finding => ¬finding.IsAbout version family :=
  pass.filter_flatMap_inEntry_eq (pass.forall₂_entries (fun _ _ hab => hab.version_eq) h config)

end Pass

/-- Runs over snapshots that differ in one family of one version find the same outside of it. -/
theorem findings_agree_outside_family (library : SchemaLibrary) (config : Config)
    {version : VersionTag} {family : Family} {s t : CorpusSnapshot}
    (h : s.SameOutside version family t) :
    (((Linter.standard library config).run s).findings.filter fun finding =>
        ¬finding.IsAbout version family) =
      ((Linter.standard library config).run t).findings.filter fun finding =>
        ¬finding.IsAbout version family := by
  rw [Pass.findings_standard, Pass.findings_standard, List.filter_flatMap, List.filter_flatMap]
  exact List.flatMap_congr fun pass _ => pass.filter_findings_eq config h

/-- A family without any of its artifacts. -/
def nothingLoaded : FamilyArtifacts := ⟨.missing, .missing, .missing⟩

/-- A table in which only payments are listed. -/
def paymentsAlone : FamilyTable FamilyArtifacts :=
  FamilyTable.empty.insert .delegatePayment nothingLoaded

/-- Checkouts cannot be read in one snapshot and are not listed in the other. -/
theorem findings_agree_outside_checkout :
    let broken := { nothingLoaded with jsonSchema := .malformed (.notAnObject "array") }
    let s : CorpusSnapshot :=
      ⟨[⟨.unreleased, true, paymentsAlone.insert .agenticCheckout broken⟩]⟩
    let t : CorpusSnapshot := ⟨[⟨.unreleased, true, paymentsAlone⟩]⟩
    s.SameOutside .unreleased .agenticCheckout t ∧
      (((Linter.standard .builtIn .standard).run s).findings.filter fun finding =>
          ¬finding.IsAbout .unreleased .agenticCheckout) =
        ((Linter.standard .builtIn .standard).run t).findings.filter fun finding =>
          ¬finding.IsAbout .unreleased .agenticCheckout := by
  intro broken s t
  have hsame : s.SameOutside .unreleased .agenticCheckout t := by
    refine .cons ⟨rfl, rfl, fun other hother => ?_⟩ .nil
    have hne : other ≠ .agenticCheckout := hother.resolve_left fun h => h rfl
    simp [hne]
  exact ⟨hsame, findings_agree_outside_family .builtIn .standard hsame⟩

end SpecLint
