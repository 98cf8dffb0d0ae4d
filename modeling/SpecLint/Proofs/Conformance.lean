import SpecLint.Proofs.Locality

/-!
Conformance of examples. An oracle remembers no validator but the one that it would make again
(`Oracle.Remembers`), so asking it one question after another brings the answers of as many new
oracles (`checkAll_ofDocument`), whatever library makes the validators. What is found in the examples
of a family is then a matter of each example by itself: `Refuses` says when an example is refused and
with which violations, and `mem_violatedExamples_iff` that exactly the refused ones are found.
-/

namespace SpecLint

/-! ### Routes -/

/-- A route concerns an example of a family. -/
def Route.Applies (route : Route) (family : Family) (name : String) : Prop :=
  route.family = family ∧ route.pattern.isMatch name = true

/-- An example goes where the first route that applies to it leads. -/
theorem RouteTable.resolve?_eq_some_iff {table : RouteTable} {family : Family}
    {name definition : String} :
    table.resolve? family name = some definition ↔
      ∃ before route after, table.routes = before ++ route :: after ∧
        (∀ earlier ∈ before, ¬earlier.Applies family name) ∧ route.Applies family name ∧
        route.definition = definition := by
  have happlies : ∀ route : Route,
      (route.family == family && route.pattern.isMatch name) = true ↔
        route.Applies family name := by
    simp [Route.Applies]
  simp only [resolve?, Option.map_eq_some_iff, List.find?_eq_some_iff_append, happlies,
    Bool.not_eq_true', ← Bool.not_eq_true]
  constructor
  · rintro ⟨route, ⟨hroute, before, after, hroutes, hbefore⟩, hdefinition⟩
    exact ⟨before, route, after, hroutes, hbefore, hroute, hdefinition⟩
  · rintro ⟨before, route, after, hroutes, hbefore, hroute, hdefinition⟩
    exact ⟨route, ⟨hroute, before, after, hroutes, hbefore⟩, hdefinition⟩

namespace Conformance

variable {library : SchemaLibrary}

/-! ### The oracle -/

/-- The oracle serves a document in a draft, and every validator that it remembers is the one that
it would make again. -/
structure Oracle.Remembers (oracle : Oracle library) (served : Served) (draft : Draft) : Prop where
  served_eq : oracle.served = served
  draft_eq : oracle.draft = draft
  compile_eq : ∀ {name validator}, oracle.validators.lookup name = some validator →
    compile library served draft name = .ok validator

namespace Oracle

variable {oracle : Oracle library} {served : Served} {draft : Draft}

theorem remembers_ofDocument (document : JsonSchemaDocument) (base : String) :
    (ofDocument library document base).Remembers (.ofDocument document base)
      (.ofDialect document.dialect?) :=
  ⟨rfl, rfl, fun h => nomatch h⟩

theorem Remembers.insert (h : oracle.Remembers served draft) {name : String}
    {validator : library.Validator}
    (hcompile : compile library served draft name = .ok validator) :
    Remembers ⟨served, draft, (name, validator) :: oracle.validators⟩ served draft := by
  refine ⟨rfl, rfl, fun {other found} hfound => ?_⟩
  rw [List.lookup_cons] at hfound
  split at hfound
  · rename_i heq
    cases hfound
    rw [eq_of_beq heq]
    exact hcompile
  · exact h.compile_eq hfound

/-- One question: the answer is that of a check from scratch, and what is remembered stays right. -/
theorem Remembers.check (h : oracle.Remembers served draft) (name : String) (value : Json) :
    (oracle.check name value).1 = Conformance.check library served draft name value ∧
      (oracle.check name value).2.Remembers served draft := by
  unfold Oracle.check Conformance.check
  rw [h.served_eq, h.draft_eq]
  split
  · cases hlookup : oracle.validators.lookup name with
    | some validator =>
        rw [h.compile_eq hlookup]
        exact ⟨rfl, h⟩
    | none =>
        cases hcompile : compile library served draft name with
        | ok validator => exact ⟨rfl, h.insert hcompile⟩
        | error reason => exact ⟨rfl, h⟩
  · exact ⟨rfl, h⟩

theorem Remembers.checkAll_eq (h : oracle.Remembers served draft)
    (calls : List (String × Json)) :
    oracle.checkAll calls =
      calls.map fun call => Conformance.check library served draft call.1 call.2 := by
  -- The oracle varies: every call may leave one behind that remembers more.
  induction calls generalizing oracle with
  | nil => rfl
  | cons call calls ih =>
      obtain ⟨name, value⟩ := call
      obtain ⟨hanswer, hnext⟩ := h.check name value
      rw [List.map_cons, ← hanswer, ← ih hnext]
      rfl

/-- Whatever an oracle is asked and in whatever order, each answer is that of a new oracle. -/
theorem checkAll_ofDocument (library : SchemaLibrary) (document : JsonSchemaDocument) (base : String)
    (calls : List (String × Json)) :
    (ofDocument library document base).checkAll calls =
      calls.map fun call => ((ofDocument library document base).check call.1 call.2).1 := by
  have h := @remembers_ofDocument library document base
  rw [h.checkAll_eq]
  exact List.map_congr_left fun call _ => (h.check call.1 call.2).1.symm

end Oracle

/-! ### Examples that are refused -/

/-- A document is served with all its definitions. -/
theorem Served.hasDefinition_ofDocument (document : JsonSchemaDocument) (base name : String) :
    (Served.ofDocument document base).hasDefinition name = document.hasDefinition name := by
  unfold hasDefinition
  rw [get?_ofDocument (by decide)]
  rfl

/-- An example is refused: the first route that applies to it leads to a definition of the document,
the definition can be used, and these are the violations that it finds, at least one. -/
structure Refuses (library : SchemaLibrary) (routes : RouteTable) (document : JsonSchemaDocument)
    (version : VersionTag) (family : Family) (name : String) (payload : Json) (definition : String)
    (violations : List Violation) : Prop where
  routed : ∃ before route after, routes.routes = before ++ route :: after ∧
    (∀ earlier ∈ before, ¬earlier.Applies family name) ∧ route.Applies family name ∧
    route.definition = definition
  defined : document.hasDefinition definition = true
  checked : ∃ validator,
    compile library (.ofDocument document (documentBase document version family))
      (.ofDialect document.dialect?) definition = .ok validator ∧
    library.violations validator payload = violations
  violated : violations ≠ []

/-- With which definition and which violations an example is refused. -/
def refusal? (library : SchemaLibrary) (routes : RouteTable) (served : Served) (draft : Draft)
    (family : Family) (name : String) (payload : Json) : Option (String × List Violation) :=
  (routes.resolve? family name).bind fun definition =>
    match check library served draft definition payload with
    | .ok verdict => if verdict.conforms then none else some (definition, verdict.violations)
    | .error _ => none

theorem refusal?_eq_some_iff {routes : RouteTable} {document : JsonSchemaDocument}
    {version : VersionTag} {family : Family} {name definition : String} {payload : Json}
    {violations : List Violation} :
    refusal? library routes (.ofDocument document (documentBase document version family))
        (.ofDialect document.dialect?) family name payload = some (definition, violations) ↔
      Refuses library routes document version family name payload definition violations := by
  simp only [refusal?, Option.bind_eq_some_iff, check, Served.hasDefinition_ofDocument]
  constructor
  · rintro ⟨target, hroute, hfound⟩
    by_cases hdefined : document.hasDefinition target = true
    · rw [if_pos hdefined] at hfound
      cases hcompile : compile library
          (.ofDocument document (documentBase document version family))
          (.ofDialect document.dialect?) target with
      | error reason => simp [hcompile] at hfound
      | ok validator =>
          simp only [hcompile, Verdict.conforms, Option.ite_none_left_eq_some, Option.some.injEq,
            Prod.mk.injEq, List.isEmpty_iff] at hfound
          obtain ⟨hviolated, rfl, rfl⟩ := hfound
          exact ⟨RouteTable.resolve?_eq_some_iff.1 hroute, hdefined, ⟨validator, hcompile, rfl⟩,
            hviolated⟩
    · simp [hdefined] at hfound
  · rintro ⟨hroute, hdefined, ⟨validator, hcompile, rfl⟩, hviolated⟩
    refine ⟨definition, RouteTable.resolve?_eq_some_iff.2 hroute, ?_⟩
    simp [hdefined, hcompile, Verdict.conforms, hviolated]

end Conformance

namespace Rule

open Conformance

variable {library : SchemaLibrary} {routes : RouteTable} {version : VersionTag} {family : Family}
  {served : Served} {draft : Draft}

/-- Although the examples of a document share one oracle, each is judged by itself. -/
theorem violatedExamples_eq {oracle : Oracle library} (h : oracle.Remembers served draft)
    (examples : Members) :
    violatedExamples routes version family oracle examples =
      examples.filterMap fun entry =>
        (refusal? library routes served draft family entry.1 entry.2).map fun refusal =>
          violatedExample version family refusal.1 entry.1 refusal.2 := by
  -- As for a list of questions, the oracle varies from one example to the next.
  induction examples generalizing oracle with
  | nil => rfl
  | cons entry rest ih =>
      obtain ⟨name, payload⟩ := entry
      rw [violatedExamples, List.filterMap_cons, refusal?]
      cases routes.resolve? family name with
      | none => simpa using ih h
      | some definition =>
          obtain ⟨hanswer, hnext⟩ := h.check definition payload
          simp only [hanswer, ih hnext, Option.bind_some]
          cases Conformance.check library served draft definition payload with
          | error _ => rfl
          | ok verdict =>
              cases hconforms : verdict.conforms <;> simp [hconforms]

/-- The examples of two findings come in the order of their names. -/
def ExampleBefore (a b : Finding) : Prop :=
  ∃ first second, a.context.exampleName = some first ∧ b.context.exampleName = some second ∧
    first < second

theorem pairwise_violatedExamples {oracle : Oracle library} (h : oracle.Remembers served draft)
    {examples : Members} (hexamples : examples.Sorted) :
    (violatedExamples routes version family oracle examples).Pairwise ExampleBefore := by
  rw [violatedExamples_eq h]
  refine List.Pairwise.filterMap _ ?_ hexamples
  intro entry other hlt a ha b hb
  obtain ⟨_, -, rfl⟩ := Option.map_eq_some_iff.1 ha
  obtain ⟨_, -, rfl⟩ := Option.map_eq_some_iff.1 hb
  exact ⟨entry.1, other.1, rfl, rfl, hlt⟩

theorem mem_violatedExamples_iff {routes : RouteTable} {document : JsonSchemaDocument}
    {examples : Members} {finding : Finding} :
    finding ∈ violatedExamples routes version family
        (.ofDocument library document (documentBase document version family)) examples ↔
      ∃ name payload definition violations, (name, payload) ∈ examples ∧
        Refuses library routes document version family name payload definition violations ∧
        finding = violatedExample version family definition name violations := by
  rw [violatedExamples_eq (Oracle.remembers_ofDocument document _)]
  simp only [List.mem_filterMap, Option.map_eq_some_iff, Prod.exists, refusal?_eq_some_iff]
  constructor
  · rintro ⟨name, payload, hmem, definition, violations, hrefuses, rfl⟩
    exact ⟨name, payload, definition, violations, hmem, hrefuses, rfl⟩
  · rintro ⟨name, payload, definition, violations, hmem, hrefuses, rfl⟩
    exact ⟨name, payload, hmem, definition, violations, hrefuses, rfl⟩

/-- The findings of a run about the conformance of one family's examples are what is found in its
examples, entry by entry. -/
theorem filter_exampleConformance_eq (library : SchemaLibrary) (config : Config)
    (snapshot : CorpusSnapshot) (version : VersionTag) (family : Family) :
    (((Linter.standard library config).run snapshot).findings.filter fun finding =>
        finding.rule = .exampleConformance ∧ finding.IsAbout version family) =
      (snapshot.versions.filter fun entry => entry.version = version).flatMap fun entry =>
        (entry.families.get? family).toList.flatMap
          (familyExamples library config version family) := by
  have hpasses : ((Pass.all library config).filter fun pass => pass.rule = .exampleConformance) =
      [⟨.exampleConformance, .everyEntry, familyExamples library config, isBy_familyExamples⟩] := rfl
  have hsplit : (fun finding : Finding =>
        decide (finding.rule = .exampleConformance ∧ finding.IsAbout version family)) =
      fun finding => decide (finding.IsAbout version family) &&
        decide (finding.rule = .exampleConformance) := by
    funext finding
    rw [Bool.decide_and, Bool.and_comm]
  rw [hsplit, ← List.filter_filter, Pass.filter_rule_eq, hpasses, List.flatMap_singleton]
  exact Pass.filter_isAbout_of_everyEntry rfl config snapshot version family

end Rule

open Conformance Rule

end SpecLint
