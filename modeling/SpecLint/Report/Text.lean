import SpecLint.Finding.Json
import SpecLint.Report.Basic

/-!
Reports as text: the findings with their contexts, a summary, and one JSON document for both.
-/

namespace SpecLint

/-- The text with `indent` after every line end. -/
def indentLines (indent text : String) : String :=
  String.ofList (text.toList.flatMap fun c => if c = '\n' then c :: indent.toList else [c])

/-- A finding with its context on the lines below. -/
def Finding.block (finding : Finding) : String :=
  let context :=
    if finding.context.isEmpty then ""
    else "  Context: " ++ indentLines "  " (Json.object finding.context.members).pretty ++ "\n"
  finding.text ++ "\n" ++ context

namespace Report

/-- The findings, one block after the other. -/
def blocks (report : Report) : String :=
  String.join (report.findings.map Finding.block)

/-- How many findings there are, and what they come to. -/
def summary (report : Report) : String :=
  let errors := report.errors.size
  let warnings := report.warnings.size
  let counts :=
    (if warnings > 0 then toString warnings ++ " warning(s)\n" else "") ++
      (if errors > 0 then toString errors ++ " error(s)\n" else "")
  let verdict :=
    match report.outcome with
    | .pass => "All validations passed! No errors or warnings.\n"
    | .passWithWarnings => counts ++ "\nValidation passed with warnings.\n"
    | .fail => counts ++ "\nValidation FAILED. Please fix the errors above.\n"
  "Validation Summary:\n" ++ verdict

/-- The report as one indented JSON document. -/
def json (report : Report) : String :=
  let list (findings : Array Finding) : Json := .array (findings.toList.map Finding.written)
  let document : Json :=
    .object [("outcome", .string report.outcome.jsonName), ("errors", list report.errors),
      ("warnings", list report.warnings)]
  document.pretty ++ "\n"

end Report

end SpecLint
