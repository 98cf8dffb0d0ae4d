import SpecLint.Finding.Basic

/-!
Reports: the findings of a run as two logs, one of errors and one of warnings, with the severities in
the order of recording, from which the findings are put together again in that order.
-/

namespace SpecLint

/-- What a run comes to. -/
inductive Outcome where
  | pass
  | passWithWarnings
  | fail
deriving DecidableEq, Repr

namespace Outcome

/-- The name of an outcome in JSON. -/
def jsonName : Outcome → String
  | .pass => "pass"
  | .passWithWarnings => "pass_with_warnings"
  | .fail => "fail"

/-- The exit code of a run: one after a failure, else zero. -/
def exitCode : Outcome → Nat
  | .pass | .passWithWarnings => 0
  | .fail => 1

end Outcome

/-- The findings that have been recorded. -/
structure Report where
  errors : Array Finding
  warnings : Array Finding
  /-- The severity of each finding, in the order of recording. -/
  severities : Array Severity
deriving DecidableEq

namespace Report

def empty : Report := ⟨#[], #[], #[]⟩

/-- Records a finding after all others. -/
def record (report : Report) (finding : Finding) : Report :=
  let severities := report.severities.push finding.severity
  match finding.severity with
  | .error => { report with errors := report.errors.push finding, severities }
  | .warning => { report with warnings := report.warnings.push finding, severities }

/-- Records findings one after the other. -/
def extend (report : Report) (findings : List Finding) : Report :=
  findings.foldl record report

/-- A report of exactly these findings. -/
def collect (findings : List Finding) : Report := empty.extend findings

/-- Takes the next finding from the log of each severity in turn. -/
def interleave : List Severity → (errors warnings : List Finding) → List Finding
  | [], _, _ => []
  | .error :: rest, error :: errors, warnings => error :: interleave rest errors warnings
  | .error :: rest, [], warnings => interleave rest [] warnings
  | .warning :: rest, errors, warning :: warnings => warning :: interleave rest errors warnings
  | .warning :: rest, errors, [] => interleave rest errors []

/-- All findings in the order of recording. -/
def findings (report : Report) : List Finding :=
  interleave report.severities.toList report.errors.toList report.warnings.toList

/-- What the findings come to: one error is enough to fail. -/
def outcome (report : Report) : Outcome :=
  if !report.errors.isEmpty then .fail
  else if !report.warnings.isEmpty then .passWithWarnings
  else .pass

/-- The exit code of the outcome. -/
def exitCode (report : Report) : Nat := report.outcome.exitCode

end Report

end SpecLint
