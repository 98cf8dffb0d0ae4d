import Mathlib.Data.List.Forall2
import SpecLint.Proofs.Locality
import SpecLint.Proofs.Selection

/-!
The order of recording. Rules come in their order; what one rule finds falls into blocks, one for
each entry of the snapshot in its order, and in a block the families come in the order of their
names. This holds of each pass (`Pass.inBlocks_findings`), because the entries at which a pass looks
are a sublist of those of the snapshot and the families of an entry are sorted. Nine rules are one
pass each; the rule for amounts is two, first the schemas and then the interfaces
(`findings_in_order`).
-/

namespace SpecLint

/-- The name of the family that a finding is about. -/
def Finding.familyName? (finding : Finding) : Option String :=
  finding.context.spec.map Family.text

/-- The findings are about the version of the entry and come in the order of families. -/
structure VersionSnapshot.IsBlock (entry : VersionSnapshot) (block : List Finding) : Prop where
  version_eq : ∀ finding ∈ block, finding.context.version = some entry.version
  sorted : (block.filterMap Finding.familyName?).Pairwise (· ≤ ·)

/-- The findings are blocks one after another, one for each entry, of which any may be empty. -/
def CorpusSnapshot.InBlocks (snapshot : CorpusSnapshot) (findings : List Finding) : Prop :=
  ∃ blocks, List.Forall₂ VersionSnapshot.IsBlock snapshot.versions blocks ∧
    findings = blocks.flatten

theorem VersionSnapshot.isBlock_nil (entry : VersionSnapshot) : entry.IsBlock [] :=
  ⟨by simp, by simp⟩

/-- Entries that are left out have empty blocks. -/
theorem CorpusSnapshot.inBlocks_flatMap {found : VersionSnapshot → List Finding}
    {chosen versions : List VersionSnapshot} (h : chosen.Sublist versions)
    (hblock : ∀ entry ∈ chosen, entry.IsBlock (found entry)) :
    InBlocks ⟨versions⟩ (chosen.flatMap found) := by
  induction h with
  | slnil => exact ⟨[], .nil, rfl⟩
  | cons entry _ ih =>
      obtain ⟨blocks, hblocks, heq⟩ := ih hblock
      exact ⟨[] :: blocks, .cons entry.isBlock_nil hblocks, heq⟩
  | cons_cons entry _ ih =>
      obtain ⟨hhead, hrest⟩ := List.forall_mem_cons.1 hblock
      obtain ⟨blocks, hblocks, heq⟩ := ih hrest
      exact ⟨found entry :: blocks, .cons hhead hblocks, by rw [List.flatMap_cons, heq]; rfl⟩

namespace Pass

variable {config : Config} {snapshot : CorpusSnapshot} {pass : Pass}

theorem sublist_entries (pass : Pass) (config : Config) (snapshot : CorpusSnapshot) :
    (pass.entries config snapshot).Sublist snapshot.versions := by
  unfold entries
  cases pass.reach with
  | everyEntry | presentEntries => exact List.Sublist.refl _
  | unreleasedEntry =>
      cases hentry : snapshot.version? config.unreleased with
      | none => exact List.nil_sublist _
      | some entry => exact List.singleton_sublist.2 (List.mem_of_find?_eq_some hentry)

theorem isBlock_inFamilies (pass : Pass) (entry : VersionSnapshot) :
    entry.IsBlock (entry.inFamilies (pass.inFamily entry.version)) := by
  have hname : ∀ row : Family × FamilyArtifacts, ∀ finding ∈
      pass.inFamily entry.version row.1 row.2, finding.familyName? = some row.1.text := by
    intro row finding hfinding
    rw [Finding.familyName?, (pass.isBy hfinding).about.2]
    rfl
  constructor
  · intro finding hfinding
    obtain ⟨row, -, hfinding⟩ := List.mem_flatMap.1 hfinding
    exact (pass.isBy hfinding).about.1
  · refine List.pairwise_filterMap.2 (List.pairwise_flatMap.2 ⟨?_, ?_⟩)
    · -- In one family there is one name.
      intro row _
      refine List.pairwise_of_forall_mem_list fun a ha b hb first hfirst second hsecond => ?_
      obtain rfl := Option.some.inj ((hname row a ha).symm.trans hfirst)
      obtain rfl := Option.some.inj ((hname row b hb).symm.trans hsecond)
      exact String.le_refl _
    · refine entry.families.ordered.imp fun {row other} hlt a ha b hb => ?_
      intro first hfirst second hsecond
      obtain rfl := Option.some.inj ((hname row a ha).symm.trans hfirst)
      obtain rfl := Option.some.inj ((hname other b hb).symm.trans hsecond)
      exact Std.le_of_lt hlt

theorem isBlock_inEntry (pass : Pass) (entry : VersionSnapshot) :
    entry.IsBlock (pass.inEntry entry) := by
  rw [inEntry_eq]
  split
  · exact pass.isBlock_inFamilies entry
  · constructor
    · intro finding hfinding
      rw [List.mem_singleton.1 hfinding]
      rfl
    · -- That a version is absent is said about no family.
      show List.Pairwise (· ≤ ·) ([] : List String)
      exact .nil

theorem inBlocks_findings (pass : Pass) (config : Config) (snapshot : CorpusSnapshot) :
    snapshot.InBlocks (pass.findings config snapshot) :=
  CorpusSnapshot.inBlocks_flatMap (pass.sublist_entries config snapshot) fun entry _ =>
    pass.isBlock_inEntry entry

theorem pairwise_rules (library : SchemaLibrary) (config : Config) :
    (all library config).Pairwise fun a b => a.rule.index ≤ b.rule.index := by
  have hrules : ((all library config).map Pass.rule).Pairwise fun a b => a.index ≤ b.index := by
    show [RuleId.jsonSchemaSyntax, .openApiSyntax, .prohibitedSchema, .amountType, .amountType,
      .fieldDescription, .modelExample, .openApiDescription, .openApiExample, .exampleConformance,
      .requiredConsistency].Pairwise fun a b => a.index ≤ b.index
    decide
  exact (List.pairwise_map (R := fun a b : RuleId => a.index ≤ b.index)).1 hrules

/-- A rule is one pass, but for the rule for amounts. -/
theorem exists_filter_rule_eq (library : SchemaLibrary) (config : Config) {rule : RuleId}
    (h : rule ≠ .amountType) :
    ∃ pass, ((all library config).filter fun pass => pass.rule = rule) = [pass] := by
  cases rule with
  | amountType => exact absurd rfl h
  | jsonSchemaSyntax | openApiSyntax | prohibitedSchema | fieldDescription | modelExample
  | openApiDescription | openApiExample | exampleConformance | requiredConsistency =>
      exact ⟨_, rfl⟩

end Pass

open Pass Rule

/-- The findings of a run come in the order of the rules. Those of one rule come entry by entry in
the order of the snapshot, and for an entry in the order of families; the rule for amounts goes
through everything twice, for schemas and then for interfaces. -/
theorem findings_in_order (library : SchemaLibrary) (config : Config) (snapshot : CorpusSnapshot) :
    let findings := ((Linter.standard library config).run snapshot).findings
    (findings.Pairwise fun a b => a.rule.index ≤ b.rule.index) ∧
    (∀ rule, rule ≠ .amountType →
      snapshot.InBlocks (findings.filter fun finding => finding.rule = rule)) ∧
    ∃ inSchemas inInterfaces,
      (findings.filter fun finding => finding.rule = .amountType) = inSchemas ++ inInterfaces ∧
      (∀ finding ∈ inSchemas, finding.context.artifact = some .jsonSchema) ∧
      (∀ finding ∈ inInterfaces, finding.context.artifact = some .openApi) ∧
      snapshot.InBlocks inSchemas ∧ snapshot.InBlocks inInterfaces := by
  intro findings
  refine ⟨?_, fun rule hrule => ?_, ?_⟩
  · show ((Linter.standard library config).run snapshot).findings.Pairwise _
    rw [findings_standard]
    refine List.pairwise_flatMap.2 ⟨fun pass hpass => ?_, ?_⟩
    · refine List.pairwise_of_forall_mem_list fun a ha b hb => ?_
      rw [rule_eq_of_mem hpass ha, rule_eq_of_mem hpass hb]
    · refine (pairwise_rules library config).imp_of_mem fun hpass hother hle a ha b hb => ?_
      rwa [rule_eq_of_mem hpass ha, rule_eq_of_mem hother hb]
  · obtain ⟨pass, hpass⟩ := exists_filter_rule_eq library config hrule
    show snapshot.InBlocks (((Linter.standard library config).run snapshot).findings.filter _)
    rw [filter_rule_eq, hpass, List.flatMap_singleton]
    exact pass.inBlocks_findings config snapshot
  · let schemas : Pass := ⟨.amountType, .everyEntry, schemaAmounts config, isBy_schemaAmounts⟩
    let interfaces : Pass :=
      ⟨.amountType, .everyEntry, interfaceAmounts config, isBy_interfaceAmounts⟩
    have hpasses : ((all library config).filter fun pass => pass.rule = .amountType) =
        [schemas, interfaces] := rfl
    refine ⟨schemas.findings config snapshot, interfaces.findings config snapshot, ?_, ?_, ?_,
      schemas.inBlocks_findings config snapshot, interfaces.inBlocks_findings config snapshot⟩
    · show (((Linter.standard library config).run snapshot).findings.filter _) = _
      rw [filter_rule_eq, hpasses, List.flatMap_cons, List.flatMap_singleton]
    · intro finding hfinding
      obtain ⟨_, _, _, hfinding⟩ := exists_row_of_mem rfl hfinding
      obtain ⟨_, _, _, _, _, -, -, rfl⟩ := eq_of_mem_schemaAmounts hfinding
      rfl
    · intro finding hfinding
      obtain ⟨_, _, _, hfinding⟩ := exists_row_of_mem rfl hfinding
      obtain ⟨_, _, _, _, _, -, -, rfl⟩ := eq_of_mem_interfaceAmounts hfinding
      rfl

/-- Two families without a schema, and a version that is absent. -/
theorem findings_in_order_twoVersions :
    let absent : VersionTag := ⟨"2026-01-30", isVersionText_newest⟩
    let broken : FamilyArtifacts := ⟨.malformed (.notAnObject "array"), .missing, .missing⟩
    let families :=
      (FamilyTable.empty.insert .delegatePayment broken).insert .agenticCheckout broken
    let snapshot : CorpusSnapshot := ⟨[⟨absent, false, .empty⟩, ⟨.unreleased, true, families⟩]⟩
    let findings := ((Linter.standard .builtIn .standard).run snapshot).findings
    RuleId.jsonSchemaSyntax ≠ .amountType ∧
      snapshot.InBlocks (findings.filter fun finding => finding.rule = .jsonSchemaSyntax) ∧
      findings.map (fun finding =>
          (finding.rule, finding.context.version, finding.familyName?)) =
        [(.jsonSchemaSyntax, some absent, none),
          (.jsonSchemaSyntax, some .unreleased, some "agentic_checkout"),
          (.jsonSchemaSyntax, some .unreleased, some "delegate_payment"),
          (.openApiSyntax, some .unreleased, some "agentic_checkout"),
          (.openApiSyntax, some .unreleased, some "delegate_payment")] := by
  intro absent broken families snapshot findings
  obtain ⟨-, hblocks, -⟩ := findings_in_order .builtIn .standard snapshot
  exact ⟨by decide, hblocks .jsonSchemaSyntax (by decide), by decide +kernel⟩

end SpecLint
