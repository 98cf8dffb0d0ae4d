import Mathlib.Tactic.Tauto
import SpecLint.Proofs.Report

/-!
Runs of any rules. A rule sees the snapshot and the configuration and nothing of what other rules
found, so a run is put together from what each rule finds by itself: in another order the rules find
the same in another order (`perm_findings_run`), and what a run comes to depends on which rules take
part and on nothing else (`outcome_run_eq`).
-/

namespace SpecLint.Linter

variable {config : Config} {snapshot : CorpusSnapshot} {rules others : List Rule}

theorem findings_run (config : Config) (snapshot : CorpusSnapshot) (rules : List Rule) :
    ((Linter.mk config rules).run snapshot).findings =
      rules.flatMap fun rule => rule.check snapshot config :=
  (holds_run ⟨config, rules⟩ snapshot).findings_eq

theorem perm_findings_run (h : rules.Perm others) :
    ((Linter.mk config rules).run snapshot).findings.Perm
      ((Linter.mk config others).run snapshot).findings := by
  rw [findings_run, findings_run]
  exact h.flatMap_right _

theorem outcome_run_eq (h : ∀ rule, rule ∈ rules ↔ rule ∈ others) :
    ((Linter.mk config rules).run snapshot).outcome =
      ((Linter.mk config others).run snapshot).outcome := by
  refine (holds_run ⟨config, rules⟩ snapshot).outcome_eq (holds_run ⟨config, others⟩ snapshot) ?_
  intro finding
  simp only [List.mem_flatMap, h]

/-- A run reports what each rule finds by itself, one rule after another, and its two logs are the
errors and the warnings among that. The same rules in another order find the same, and the outcome
and the exit code are those of any other run with the same rules, however these are ordered or
repeated. -/
theorem run_concatenates_rules (config : Config) (snapshot : CorpusSnapshot) (rules : List Rule) :
    let report := (Linter.mk config rules).run snapshot
    let found := rules.flatMap fun rule => rule.check snapshot config
    report.findings = found ∧
    report.errors.toList = (found.filter fun finding => finding.severity = .error) ∧
    report.warnings.toList = (found.filter fun finding => finding.severity = .warning) ∧
    (∀ others : List Rule, rules.Perm others →
      report.findings.Perm ((Linter.mk config others).run snapshot).findings) ∧
    ∀ others : List Rule, (∀ rule, rule ∈ rules ↔ rule ∈ others) →
      report.outcome = ((Linter.mk config others).run snapshot).outcome ∧
      report.exitCode = ((Linter.mk config others).run snapshot).exitCode := by
  intro report found
  have h : report.Holds found := holds_run ⟨config, rules⟩ snapshot
  refine ⟨h.findings_eq, h.errors_eq, h.warnings_eq, fun others hperm => perm_findings_run hperm,
    fun others hsame => ?_⟩
  have houtcome : report.outcome = ((Linter.mk config others).run snapshot).outcome :=
    outcome_run_eq hsame
  exact ⟨houtcome, congrArg Outcome.exitCode houtcome⟩

/-- The two rules of syntax, one with an error and one with a warning, in either order, and one of
them twice. -/
theorem run_concatenates_rules_syntax :
    let broken : FamilyArtifacts := ⟨.malformed (.notAnObject "array"), .missing, .missing⟩
    let snapshot : CorpusSnapshot :=
      ⟨[⟨.unreleased, true, FamilyTable.empty.insert .agenticCheckout broken⟩]⟩
    let run (rules : List Rule) : Report := (Linter.mk .standard rules).run snapshot
    let schema := Rule.jsonSchemaSyntax
    let interface := Rule.openApiSyntax
    [schema, interface].Perm [interface, schema] ∧
      (∀ rule, rule ∈ [schema, interface] ↔ rule ∈ [interface, schema, interface]) ∧
      (run [schema, interface]).findings.map Finding.severity = [.error, .warning] ∧
      (run [schema, interface]).findings.Perm (run [interface, schema]).findings ∧
      (run [interface, schema, interface]).outcome = .fail := by
  intro broken snapshot run schema interface
  have hperm : [schema, interface].Perm [interface, schema] := .swap _ _ _
  have hsame : ∀ rule, rule ∈ [schema, interface] ↔ rule ∈ [interface, schema, interface] := by
    intro rule
    simp only [List.mem_cons, List.not_mem_nil, or_false]
    tauto
  obtain ⟨-, -, -, hpermuted, hrepeated⟩ :=
    run_concatenates_rules .standard snapshot [schema, interface]
  have hfails : (run [schema, interface]).outcome = .fail := by decide +kernel
  exact ⟨hperm, hsame, by decide +kernel, hpermuted _ hperm,
    (hrepeated _ hsame).1.symm.trans hfails⟩

end SpecLint.Linter
