import SpecLint.Linter

/-!
What a report holds. A report keeps errors and warnings in two logs and remembers only the
severities in the order of recording; `Report.Holds` says that these three are the views of one list
of findings. Recording keeps this so (`Holds.record`), a run therefore holds the findings of its
rules one after another (`holds_run`), and the list can be read back from the logs
(`Holds.findings_eq`).
-/

namespace SpecLint

theorem Finding.isError_eq (finding : Finding) :
    finding.isError = decide (finding.severity = .error) := rfl

theorem Finding.not_isError_eq (finding : Finding) :
    (!finding.isError) = decide (finding.severity = .warning) := by
  rw [isError_eq]
  cases finding.severity <;> rfl

namespace Report

/-- The logs are those of findings that were recorded in this order. -/
structure Holds (report : Report) (findings : List Finding) : Prop where
  errors : report.errors.toList = findings.filter Finding.isError
  warnings : report.warnings.toList = findings.filter fun finding => !finding.isError
  severities : report.severities.toList = findings.map Finding.severity

theorem holds_empty : empty.Holds [] := ⟨rfl, rfl, rfl⟩

theorem Holds.record {report : Report} {findings : List Finding} (h : report.Holds findings)
    (finding : Finding) : (report.record finding).Holds (findings ++ [finding]) := by
  cases hseverity : finding.severity with
  | error =>
      have herror : finding.isError = true := by rw [Finding.isError, hseverity]; rfl
      constructor <;> simp [Report.record, hseverity, herror, h.errors, h.warnings, h.severities]
  | warning =>
      have herror : finding.isError = false := by rw [Finding.isError, hseverity]; rfl
      constructor <;> simp [Report.record, hseverity, herror, h.errors, h.warnings, h.severities]

theorem Holds.extend {report : Report} {findings : List Finding} (h : report.Holds findings)
    (more : List Finding) : (report.extend more).Holds (findings ++ more) := by
  induction more generalizing report findings with
  | nil => simpa [Report.extend] using h
  | cons finding more ih => simpa [Report.extend] using ih (h.record finding)

theorem Holds.foldl_extend {α : Type} {report : Report} {findings : List Finding}
    (h : report.Holds findings) (parts : List α) (found : α → List Finding) :
    (parts.foldl (fun report part => report.extend (found part)) report).Holds
      (findings ++ parts.flatMap found) := by
  induction parts generalizing report findings with
  | nil => simpa using h
  | cons part parts ih => simpa using ih (h.extend (found part))

/-- Taking the next finding from the log of each severity in turn gives back the findings whose logs
they are. -/
theorem interleave_logs (findings : List Finding) :
    interleave (findings.map Finding.severity) (findings.filter Finding.isError)
      (findings.filter fun finding => !finding.isError) = findings := by
  induction findings with
  | nil => rfl
  | cons finding findings ih =>
      cases hseverity : finding.severity with
      | error =>
          have herror : finding.isError = true := by rw [Finding.isError, hseverity]; rfl
          simp [interleave, hseverity, herror, ih]
      | warning =>
          have herror : finding.isError = false := by rw [Finding.isError, hseverity]; rfl
          simp [interleave, hseverity, herror, ih]

theorem Holds.findings_eq {report : Report} {findings : List Finding} (h : report.Holds findings) :
    report.findings = findings := by
  rw [Report.findings, h.errors, h.warnings, h.severities, interleave_logs]

/-- A report is known by the findings that it holds. -/
theorem Holds.report_eq {a b : Report} {findings : List Finding} (ha : a.Holds findings)
    (hb : b.Holds findings) : a = b := by
  obtain ⟨_, _, _⟩ := a
  obtain ⟨_, _, _⟩ := b
  rw [Report.mk.injEq]
  exact ⟨Array.toList_inj.1 (ha.errors.trans hb.errors.symm),
    Array.toList_inj.1 (ha.warnings.trans hb.warnings.symm),
    Array.toList_inj.1 (ha.severities.trans hb.severities.symm)⟩

theorem Holds.outcome_eq_fail_iff {report : Report} {findings : List Finding}
    (h : report.Holds findings) :
    report.outcome = .fail ↔ ∃ finding ∈ findings, finding.isError = true := by
  have hempty : report.errors.isEmpty = true ↔ ∀ finding ∈ findings, ¬finding.isError = true := by
    rw [Array.isEmpty_iff, ← Array.toList_eq_nil_iff, h.errors, List.filter_eq_nil_iff]
  unfold outcome
  cases herrors : report.errors.isEmpty with
  | true =>
      have hnone := hempty.1 herrors
      cases report.warnings.isEmpty <;> simpa using hnone
  | false =>
      have hsome : ¬∀ finding ∈ findings, ¬finding.isError = true := fun hnone => by
        rw [hempty.2 hnone] at herrors
        cases herrors
      simpa using hsome

theorem exitCode_eq_zero_iff (report : Report) :
    report.exitCode = 0 ↔ report.errors.toList = [] := by
  unfold exitCode outcome
  cases herrors : report.errors.toList with
  | nil =>
      have hempty : report.errors.isEmpty = true := by simpa using herrors
      cases hwarnings : report.warnings.isEmpty <;> simp [hempty, Outcome.exitCode]
  | cons error errors =>
      have hempty : report.errors.isEmpty = false := by
        rw [Array.isEmpty_eq_false_iff]
        rintro hnil
        simp [hnil] at herrors
      simp [hempty, Outcome.exitCode]

theorem exitCode_eq_one_iff (report : Report) : report.exitCode = 1 ↔ report.outcome = .fail := by
  unfold exitCode
  cases report.outcome <;> simp [Outcome.exitCode]

section

variable {report other : Report} {findings more : List Finding}

theorem Holds.errors_eq (h : report.Holds findings) :
    report.errors.toList = findings.filter fun finding => finding.severity = .error := h.errors

theorem Holds.warnings_eq (h : report.Holds findings) :
    report.warnings.toList = findings.filter fun finding => finding.severity = .warning := by
  simp only [h.warnings, Finding.not_isError_eq]

theorem Holds.size_add_size (h : report.Holds findings) :
    report.errors.size + report.warnings.size = findings.length := by
  have hsplit := List.length_eq_countP_add_countP Finding.isError (l := findings)
  rw [List.countP_eq_length_filter, List.countP_eq_length_filter] at hsplit
  rw [← Array.length_toList, ← Array.length_toList, h.errors, h.warnings, hsplit]
  simp

theorem Holds.outcome_eq_pass_iff (h : report.Holds findings) :
    report.outcome = .pass ↔ findings = [] := by
  have hnone : findings = [] ↔ report.errors = #[] ∧ report.warnings = #[] := by
    rw [← List.length_eq_zero_iff, ← h.size_add_size, Nat.add_eq_zero_iff, Array.size_eq_zero_iff,
      Array.size_eq_zero_iff]
  rw [hnone, outcome]
  cases herrors : report.errors.isEmpty <;> cases hwarnings : report.warnings.isEmpty <;>
    simp_all

/-- The outcome depends on which findings there are, and neither on their order nor on how often
each was recorded. -/
theorem Holds.outcome_eq (h : report.Holds findings) (hother : other.Holds more)
    (hsame : ∀ finding, finding ∈ findings ↔ finding ∈ more) : report.outcome = other.outcome := by
  have hfail : report.outcome = .fail ↔ other.outcome = .fail := by
    simp only [h.outcome_eq_fail_iff, hother.outcome_eq_fail_iff, hsame]
  have hpass : report.outcome = .pass ↔ other.outcome = .pass := by
    simp only [h.outcome_eq_pass_iff, hother.outcome_eq_pass_iff, List.eq_nil_iff_forall_not_mem,
      hsame]
  cases ha : report.outcome <;> cases hb : other.outcome <;> simp_all

end

end Report

namespace Linter

/-- A run reports what its rules find, one rule after another. -/
theorem holds_run (linter : Linter) (snapshot : CorpusSnapshot) :
    (linter.run snapshot).Holds
      (linter.rules.flatMap fun rule => rule.check snapshot linter.config) :=
  Report.holds_empty.foldl_extend _ _

end Linter

end SpecLint
