import SpecLint.Proofs.Report

/-!
A report as a log. Whatever is done with a report, one finding or several recorded, or a new report
collected in its place, it holds what was recorded since the last collection began
(`holds_after`), and until the next collection nothing of that changes or goes missing
(`Extends`). The logs of the two severities and the order of recording are kept apart, so each
operation has to keep all three in step; that it does is the step lemma `Holds.apply`.
-/

namespace SpecLint.Report

/-- What can be done with a report. -/
inductive Operation where
  | record (finding : Finding)
  | extend (findings : List Finding)
  /-- Puts a new report of these findings in the place of the old one. -/
  | collect (findings : List Finding)

namespace Operation

def apply (operation : Operation) (report : Report) : Report :=
  match operation with
  | .record finding => report.record finding
  | .extend findings => report.extend findings
  | .collect findings => .collect findings

/-- The findings that an operation records. -/
def findings : Operation → List Finding
  | .record finding => [finding]
  | .extend findings | .collect findings => findings

def isCollect : Operation → Bool
  | .collect _ => true
  | .record _ | .extend _ => false

/-- The last collection with what follows it, or everything if nothing was collected. -/
def sinceCollect : List Operation → List Operation
  | [] => []
  | operation :: rest => if rest.any isCollect then sinceCollect rest else operation :: rest

/-- What was recorded since the last collection began. -/
def recorded (operations : List Operation) : List Finding :=
  (sinceCollect operations).flatMap findings

theorem sinceCollect_of_any {operation : Operation} {rest : List Operation}
    (h : rest.any isCollect = true) : sinceCollect (operation :: rest) = sinceCollect rest := by
  rw [sinceCollect, if_pos h]

theorem sinceCollect_of_not_any {operations : List Operation}
    (h : operations.any isCollect = false) : sinceCollect operations = operations := by
  cases operations with
  | nil => rfl
  | cons operation rest =>
      have hrest : rest.any isCollect = false := (Bool.or_eq_false_iff.1 h).2
      rw [sinceCollect, hrest, if_neg Bool.false_ne_true]

end Operation

open Operation

/-- The report after some operations, of which the first meets a report without findings. -/
def after (operations : List Operation) : Report :=
  operations.foldl (fun report operation => operation.apply report) .empty

/-! ### What is recorded -/

variable {report : Report} {findings more : List Finding}

/-- One operation: it adds to what the report holds, unless it begins anew. -/
theorem Holds.apply (h : report.Holds findings) (operation : Operation) :
    (operation.apply report).Holds
      (if operation.isCollect then operation.findings else findings ++ operation.findings) := by
  cases operation with
  | record finding => exact h.record finding
  | extend more => exact h.extend more
  | collect more => exact holds_empty.extend more

theorem Holds.foldl_apply (h : report.Holds findings) (operations : List Operation) :
    (operations.foldl (fun report operation => operation.apply report) report).Holds
      (if operations.any isCollect then recorded operations
        else findings ++ operations.flatMap Operation.findings) := by
  -- The first operation leaves a report with other findings behind, so these vary.
  induction operations generalizing report findings with
  | nil => simpa using h
  | cons operation rest ih =>
      have hrest := ih (h.apply operation)
      rw [List.foldl_cons]
      cases hany : rest.any isCollect with
      | true =>
          rw [hany, if_pos rfl] at hrest
          rw [List.any_cons, hany, Bool.or_true, if_pos rfl, recorded, sinceCollect_of_any hany]
          exact hrest
      | false =>
          rw [hany, if_neg Bool.false_ne_true] at hrest
          cases hcollect : operation.isCollect with
          | true => simpa [hcollect, hany, recorded, sinceCollect] using hrest
          | false => simpa [hcollect, hany] using hrest

theorem holds_after (operations : List Operation) :
    (after operations).Holds (recorded operations) := by
  have h := holds_empty.foldl_apply operations
  cases hany : operations.any isCollect with
  | true => rwa [hany, if_pos rfl] at h
  | false =>
      rw [hany, if_neg Bool.false_ne_true, List.nil_append] at h
      rwa [recorded, sinceCollect_of_not_any hany]

/-! ### What stays -/

/-- The second report has all that the first has, unchanged and in the same places, and perhaps more
after it. -/
structure Extends (before after : Report) : Prop where
  findings : before.findings <+: after.findings
  errors : before.errors.toList <+: after.errors.toList
  warnings : before.warnings.toList <+: after.warnings.toList

theorem Holds.extends {other : Report} (h : report.Holds findings) (hother : other.Holds more)
    (hkept : findings <+: more) : report.Extends other where
  findings := by rwa [h.findings_eq, hother.findings_eq]
  errors := by
    rw [h.errors, hother.errors]
    exact hkept.filter _
  warnings := by
    rw [h.warnings, hother.warnings]
    exact hkept.filter _

theorem prefix_recorded_append (operations : List Operation) {later : List Operation}
    (h : later.any isCollect = false) :
    recorded operations <+: recorded (operations ++ later) := by
  have hsince : sinceCollect (operations ++ later) = sinceCollect operations ++ later := by
    induction operations with
    | nil => exact sinceCollect_of_not_any h
    | cons operation rest ih =>
        cases hany : rest.any isCollect <;>
          simp [sinceCollect, List.any_append, h, hany, ih]
  rw [recorded, recorded, hsince, List.flatMap_append]
  exact List.prefix_append _ _

/-- After any operations a report lists what was recorded since the last collection began, in the
order of recording. Its two logs are the errors and the warnings among these and its counts are
theirs; it fails if there is an error, and passes without warnings if there is nothing. Operations
that collect nothing anew leave all that in place. -/
theorem after_lists_recorded (operations : List Operation) :
    (after operations).findings = recorded operations ∧
    (after operations).errors.toList =
      ((recorded operations).filter fun finding => finding.severity = .error) ∧
    (after operations).warnings.toList =
      ((recorded operations).filter fun finding => finding.severity = .warning) ∧
    (after operations).errors.size + (after operations).warnings.size =
      (recorded operations).length ∧
    ((after operations).exitCode = 1 ↔
      ∃ finding ∈ recorded operations, finding.severity = .error) ∧
    ((after operations).outcome = .pass ↔ recorded operations = []) ∧
    ∀ later, later.any isCollect = false →
      (after operations).Extends (after (operations ++ later)) := by
  have h := holds_after operations
  refine ⟨h.findings_eq, h.errors_eq, h.warnings_eq, h.size_add_size, ?_, h.outcome_eq_pass_iff, ?_⟩
  · rw [exitCode_eq_one_iff, h.outcome_eq_fail_iff]
    simp only [Finding.isError_eq, decide_eq_true_eq]
  · intro later hlater
    exact h.extends (holds_after _) (prefix_recorded_append operations hlater)

/-- What came before the collection does not count, and what comes after it is kept. -/
theorem after_lists_recorded_collected :
    let warning : Finding := .warning .openApiSyntax "warning" .empty
    let error : Finding := .error .amountType "error" .empty
    let operations : List Operation :=
      [.record error, .collect [warning], .extend [error, warning]]
    [Operation.record error].any isCollect = false ∧
      (after operations).findings = [warning, error, warning] ∧
      (after operations).errors.toList = [error] ∧ (after operations).exitCode = 1 ∧
      (after operations).Extends (after (operations ++ [.record error])) := by
  intro warning error operations
  obtain ⟨hfindings, herrors, -, -, hfails, -, hkept⟩ := after_lists_recorded operations
  have herror : error ∈ recorded operations := by decide
  exact ⟨rfl, hfindings, herrors, hfails.2 ⟨error, herror, rfl⟩, hkept _ rfl⟩

end SpecLint.Report
