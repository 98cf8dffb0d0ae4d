import SpecLint.Proofs.Distinct
import SpecLint.Proofs.Place

/-!
Required fields that drift apart. The rule joins two tables by name, makes sets of two lists, and
reports two differences, each with the side that requires the field. Taken together these are the
symmetric difference: `Drift` is one field that one side requires and the other does not,
`check_requiredConsistency_eq` says that the rule makes one finding of each, and `mem_drifts_iff`
which there are. Since the condition is the same for both sides but for their order, definitions
that change sides drift in the same fields.
-/

namespace SpecLint

open Rule Schema

/-- A field of the definitions at a place, which the artifact of one kind requires and that of
another does not. -/
structure Drift where
  place : Place
  requires : ArtifactKind
  omits : ArtifactKind
  field : String
deriving DecidableEq

namespace Drift

def finding (drift : Drift) : Finding :=
  oneSided drift.place.version drift.place.family drift.place.name drift.requires drift.omits
    drift.field

/-- The same field with the sides exchanged. -/
def exchanged (drift : Drift) : Drift :=
  { drift with requires := drift.omits, omits := drift.requires }

/-- The order is that of places, at a place what the schema requires comes first, and on one side
the order is that of the names of fields. -/
inductive Before (a b : Drift) : Prop
  | place (h : a.place.Before b.place)
  | side (hplace : a.place = b.place) (ha : a.requires = .jsonSchema) (hb : b.requires = .openApi)
  | field (hplace : a.place = b.place) (hside : a.requires = b.requires) (h : a.field < b.field)

theorem before_irrefl (drift : Drift) : ¬drift.Before drift := by
  intro h
  cases h with
  | place h => exact drift.place.before_irrefl h
  | side _ ha hb => cases ha.symm.trans hb
  | field _ _ h => exact String.lt_irrefl _ h

instance : Std.Irrefl Before := ⟨before_irrefl⟩

end Drift

namespace Rule

/-- The fields are in order, each once. -/
theorem pairwise_requiredFields (value : Json) : (requiredFields value).Pairwise (· < ·) := by
  have hle : ∀ a b : String, (!decide (b < a)) = true ↔ a ≤ b := by
    intro a b
    rw [Bool.not_eq_true', decide_eq_false_iff_not, String.not_lt]
  have hsorted : (requiredFields value).Pairwise fun a b => (!decide (b < a)) = true := by
    unfold requiredFields
    split
    · refine List.pairwise_mergeSort (fun a b c hab hbc => ?_) (fun a b => ?_) _
      · exact (hle a c).2 (String.le_trans ((hle a b).1 hab) ((hle b c).1 hbc))
      · rw [Bool.or_eq_true, hle, hle]
        exact String.le_total a b
    · exact .nil
  refine (hsorted.and (nodup_requiredFields value)).imp ?_
  rintro a b ⟨hab, hne⟩
  rcases Std.lt_trichotomy a b with hlt | heq | hgt
  · exact hlt
  · exact absurd heq hne
  · exact absurd hgt (String.not_lt.2 ((hle a b).1 hab))

end Rule

namespace CorpusSnapshot

variable {snapshot : CorpusSnapshot} {place : Place} {ours theirs : Json} {drift : Drift}

/-- A name stands in schema and interface, and of the definitions one requires a field and the other
does not. -/
structure HasDrift (snapshot : CorpusSnapshot) (drift : Drift) : Prop where
  kinds : drift.requires = .jsonSchema ∧ drift.omits = .openApi ∨
    drift.requires = .openApi ∧ drift.omits = .jsonSchema
  required : ∃ definition, snapshot.definition? drift.requires drift.place = some definition ∧
    Requires definition drift.field
  omitted : ∃ definition, snapshot.definition? drift.omits drift.place = some definition ∧
    ¬Requires definition drift.field

/-- The fields that a definition on one side requires and the one on the other side does not. -/
def driftsFrom (place : Place) (requires omits : ArtifactKind) (ours theirs : Json) : List Drift :=
  ((requiredFields ours).filter (!(requiredFields theirs).contains ·)).map
    fun field => ⟨place, requires, omits, field⟩

/-- What two definitions at a place drift in, first what the schema requires. -/
def driftsBetween (place : Place) (ours theirs : Json) : List Drift :=
  driftsFrom place .jsonSchema .openApi ours theirs ++
    driftsFrom place .openApi .jsonSchema theirs ours

/-- What a definition of a schema and the one of an interface at its place drift in. -/
def driftsAt (snapshot : CorpusSnapshot) (place : Place) (ours : Json) : List Drift :=
  match snapshot.definition? .openApi place with
  | some theirs => driftsBetween place ours theirs
  | none => []

/-- What the definitions of a snapshot drift in, place by place. -/
def drifts (snapshot : CorpusSnapshot) : List Drift :=
  (snapshot.definitions .jsonSchema).flatMap fun row => snapshot.driftsAt row.1 row.2

theorem mem_driftsFrom_iff {requires omits : ArtifactKind} :
    drift ∈ driftsFrom place requires omits ours theirs ↔
      drift.place = place ∧ drift.requires = requires ∧ drift.omits = omits ∧
        Requires ours drift.field ∧ ¬Requires theirs drift.field := by
  obtain ⟨_, _, _, field⟩ := drift
  simp only [driftsFrom, List.mem_map, List.mem_filter, Bool.not_eq_true', List.contains_eq_mem,
    decide_eq_false_iff_not, mem_requiredFields_iff, Drift.mk.injEq]
  constructor
  · rintro ⟨_, hfield, rfl, rfl, rfl, rfl⟩
    exact ⟨rfl, rfl, rfl, hfield⟩
  · rintro ⟨rfl, rfl, rfl, hfield⟩
    exact ⟨field, hfield, rfl, rfl, rfl, rfl⟩

theorem mem_driftsBetween_iff :
    drift ∈ driftsBetween place ours theirs ↔ drift.place = place ∧
      (drift.requires = .jsonSchema ∧ drift.omits = .openApi ∧ Requires ours drift.field ∧
          ¬Requires theirs drift.field ∨
        drift.requires = .openApi ∧ drift.omits = .jsonSchema ∧ Requires theirs drift.field ∧
          ¬Requires ours drift.field) := by
  rw [driftsBetween, List.mem_append, mem_driftsFrom_iff, mem_driftsFrom_iff, and_or_left]

/-- Definitions that change sides drift in the same fields, on the other side. -/
theorem mem_driftsBetween_comm :
    drift ∈ driftsBetween place theirs ours ↔
      drift.exchanged ∈ driftsBetween place ours theirs := by
  rw [mem_driftsBetween_iff, mem_driftsBetween_iff]
  refine and_congr_right fun _ => ?_
  rw [or_comm]
  exact or_congr and_left_comm and_left_comm

theorem mem_driftsAt_iff :
    drift ∈ snapshot.driftsAt place ours ↔
      ∃ theirs, snapshot.definition? .openApi place = some theirs ∧
        drift ∈ driftsBetween place ours theirs := by
  unfold driftsAt
  cases snapshot.definition? .openApi place <;> simp

theorem mem_drifts_iff_exists :
    drift ∈ snapshot.drifts ↔
      ∃ ours theirs, snapshot.definition? .jsonSchema drift.place = some ours ∧
        snapshot.definition? .openApi drift.place = some theirs ∧
        drift ∈ driftsBetween drift.place ours theirs := by
  simp only [drifts, List.mem_flatMap, Prod.exists, mem_definitions_iff, mem_driftsAt_iff]
  constructor
  · rintro ⟨place, ours, hours, theirs, htheirs, hdrift⟩
    obtain rfl := (mem_driftsBetween_iff.1 hdrift).1
    exact ⟨ours, theirs, hours, htheirs, hdrift⟩
  · rintro ⟨ours, theirs, hours, htheirs, hdrift⟩
    exact ⟨drift.place, ours, hours, theirs, htheirs, hdrift⟩

theorem mem_drifts_iff : drift ∈ snapshot.drifts ↔ snapshot.HasDrift drift := by
  simp only [mem_drifts_iff_exists, mem_driftsBetween_iff, true_and]
  constructor
  · rintro ⟨ours, theirs, hours, htheirs,
      ⟨hrequires, homits, hfield, hother⟩ | ⟨hrequires, homits, hfield, hother⟩⟩
    · exact ⟨Or.inl ⟨hrequires, homits⟩, ⟨ours, hrequires ▸ hours, hfield⟩,
        ⟨theirs, homits ▸ htheirs, hother⟩⟩
    · exact ⟨Or.inr ⟨hrequires, homits⟩, ⟨theirs, hrequires ▸ htheirs, hfield⟩,
        ⟨ours, homits ▸ hours, hother⟩⟩
  · rintro ⟨⟨hrequires, homits⟩ | ⟨hrequires, homits⟩, ⟨a, ha, hfield⟩, ⟨b, hb, hother⟩⟩
    · exact ⟨a, b, hrequires ▸ ha, homits ▸ hb, Or.inl ⟨hrequires, homits, hfield, hother⟩⟩
    · exact ⟨b, a, homits ▸ hb, hrequires ▸ ha, Or.inr ⟨hrequires, homits, hfield, hother⟩⟩

/-- At a place with two definitions, what is between these is all that drifts. -/
theorem mem_drifts_iff_of_definition? (hours : snapshot.definition? .jsonSchema place = some ours)
    (htheirs : snapshot.definition? .openApi place = some theirs) (hplace : drift.place = place) :
    drift ∈ snapshot.drifts ↔ drift ∈ driftsBetween place ours theirs := by
  subst hplace
  simp [mem_drifts_iff_exists, hours, htheirs]

theorem pairwise_driftsFrom (place : Place) (requires omits : ArtifactKind) (ours theirs : Json) :
    (driftsFrom place requires omits ours theirs).Pairwise Drift.Before :=
  List.pairwise_map.2 (((pairwise_requiredFields ours).filter _).imp fun h => .field rfl rfl h)

theorem pairwise_driftsBetween (place : Place) (ours theirs : Json) :
    (driftsBetween place ours theirs).Pairwise Drift.Before := by
  refine List.pairwise_append.2 ⟨pairwise_driftsFrom .., pairwise_driftsFrom .., ?_⟩
  intro a ha b hb
  obtain ⟨haplace, haside, -⟩ := mem_driftsFrom_iff.1 ha
  obtain ⟨hbplace, hbside, -⟩ := mem_driftsFrom_iff.1 hb
  exact .side (haplace.trans hbplace.symm) haside hbside

theorem pairwise_drifts (snapshot : CorpusSnapshot) : snapshot.drifts.Pairwise Drift.Before := by
  refine List.pairwise_flatMap.2 ⟨?_, (snapshot.pairwise_definitions .jsonSchema).imp ?_⟩
  · rintro ⟨place, ours⟩ -
    unfold driftsAt
    split
    · exact pairwise_driftsBetween place ours _
    · exact .nil
  · rintro ⟨place, ours⟩ ⟨place', ours'⟩ hbefore a ha b hb
    obtain ⟨_, -, ha⟩ := mem_driftsAt_iff.1 ha
    obtain ⟨_, -, hb⟩ := mem_driftsAt_iff.1 hb
    obtain rfl := (mem_driftsBetween_iff.1 ha).1
    obtain rfl := (mem_driftsBetween_iff.1 hb).1
    exact .place hbefore

/-- The definitions at a place drift in nothing if and only if they require the same fields. -/
theorem forall_place_ne_iff (hours : snapshot.definition? .jsonSchema place = some ours)
    (htheirs : snapshot.definition? .openApi place = some theirs) :
    (∀ drift ∈ snapshot.drifts, drift.place ≠ place) ↔
      ∀ field, Requires ours field ↔ Requires theirs field := by
  constructor
  · intro hnone field
    have hsilent : ∀ requires omits,
        (⟨place, requires, omits, field⟩ : Drift) ∉ driftsBetween place ours theirs :=
      fun requires omits hdrift =>
        hnone _ ((mem_drifts_iff_of_definition? hours htheirs rfl).2 hdrift) rfl
    constructor
    · intro hfield
      by_contra hother
      exact hsilent .jsonSchema .openApi
        (mem_driftsBetween_iff.2 ⟨rfl, Or.inl ⟨rfl, rfl, hfield, hother⟩⟩)
    · intro hfield
      by_contra hother
      exact hsilent .openApi .jsonSchema
        (mem_driftsBetween_iff.2 ⟨rfl, Or.inr ⟨rfl, rfl, hfield, hother⟩⟩)
  · intro hsame drift hdrift hplace
    rw [mem_drifts_iff_of_definition? hours htheirs hplace, mem_driftsBetween_iff] at hdrift
    obtain ⟨-, ⟨-, -, hfield, hother⟩ | ⟨-, -, hfield, hother⟩⟩ := hdrift
    · exact hother ((hsame _).1 hfield)
    · exact hother ((hsame _).2 hfield)

end CorpusSnapshot

/-! ### The rule -/

namespace Rule

theorem driftOf_eq (place : Place) (ours theirs : Json) :
    driftOf place.version place.family place.name ours theirs =
      (CorpusSnapshot.driftsBetween place ours theirs).map Drift.finding := by
  simp only [driftOf, CorpusSnapshot.driftsBetween, CorpusSnapshot.driftsFrom, List.map_append,
    List.map_map]
  rfl

theorem familyDrift_eq {snapshot : CorpusSnapshot} {index : Nat} {version : VersionTag}
    {family : Family} {artifacts : FamilyArtifacts}
    (h : ∀ name, snapshot.artifactsAt? ⟨index, version, family, name⟩ = some artifacts) :
    familyDrift version family artifacts =
      (artifacts.definitions .jsonSchema).flatMap fun row =>
        (snapshot.driftsAt ⟨index, version, family, row.1⟩ row.2).map Drift.finding := by
  have htheirs : ∀ name, snapshot.definition? .openApi ⟨index, version, family, name⟩ =
      artifacts.openApi.document?.bind (·.schema? name) := by
    intro name
    rw [CorpusSnapshot.definition?, h, Option.bind_some, FamilyArtifacts.definition?]
  unfold familyDrift FamilyArtifacts.definitions CorpusSnapshot.driftsAt
  simp only [htheirs]
  cases artifacts.jsonSchema.document? with
  | none => rfl
  | some schema =>
      cases artifacts.openApi.document? with
      | none => simp
      | some interface =>
          refine List.flatMap_congr fun row _ => ?_
          dsimp only [Option.bind_some]
          cases interface.schema? row.1 with
          | none => rfl
          | some theirs => exact driftOf_eq ⟨index, version, family, row.1⟩ row.2 theirs

/-- The rule makes one finding of each field that drifts. -/
theorem check_requiredConsistency_eq (config : Config) (snapshot : CorpusSnapshot) :
    requiredConsistency.check snapshot config = snapshot.drifts.map Drift.finding := by
  rw [CorpusSnapshot.drifts, List.map_flatMap]
  exact CorpusSnapshot.inVersions_inFamilies_eq .jsonSchema
    (fun place ours => (snapshot.driftsAt place ours).map Drift.finding)
    fun _ _ _ _ => familyDrift_eq

end Rule

/-- The rule for required fields finds one warning for each field that one of two definitions of a
name requires and the other does not, with the artifact that requires it. About a name that stands
in both artifacts nothing is found if and only if the same fields are required, and if the two
definitions change sides the same fields are found on the other side. -/
theorem required_drift_exact (config : Config) (snapshot : CorpusSnapshot) :
    requiredConsistency.check snapshot config = snapshot.drifts.map Drift.finding ∧
    (∀ drift : Drift, drift.finding.severity = .warning ∧
      drift.finding.context.artifact = some drift.requires) ∧
    snapshot.drifts.Pairwise Drift.Before ∧ snapshot.drifts.Nodup ∧
    (∀ drift, drift ∈ snapshot.drifts ↔ snapshot.HasDrift drift) ∧
    ∀ place ours theirs, snapshot.definition? .jsonSchema place = some ours →
      snapshot.definition? .openApi place = some theirs →
      ((∀ drift ∈ snapshot.drifts, drift.place ≠ place) ↔
        ∀ field, Requires ours field ↔ Requires theirs field) ∧
      ∀ other : CorpusSnapshot, other.definition? .jsonSchema place = some theirs →
        other.definition? .openApi place = some ours →
        ∀ drift : Drift, drift.place = place →
          (drift ∈ other.drifts ↔ drift.exchanged ∈ snapshot.drifts) := by
  have hordered := snapshot.pairwise_drifts
  refine ⟨check_requiredConsistency_eq config snapshot, fun drift => ⟨rfl, rfl⟩, hordered,
    hordered.nodup, fun drift => CorpusSnapshot.mem_drifts_iff,
    fun place ours theirs hours htheirs =>
      ⟨CorpusSnapshot.forall_place_ne_iff hours htheirs,
        fun other hours' htheirs' drift hplace => ?_⟩⟩
  have hexchanged : drift.exchanged.place = place := hplace
  rw [CorpusSnapshot.mem_drifts_iff_of_definition? hours' htheirs' hplace,
    CorpusSnapshot.mem_drifts_iff_of_definition? hours htheirs hexchanged,
    CorpusSnapshot.mem_driftsBetween_comm]

def requiring (fields : List String) : Json := .object [("required", .ofStrings fields)]

theorem canonical_requiring (fields : List String) : (requiring fields).Canonical := by
  simp [requiring, Json.ofStrings, Json.Canonical, Json.CanonicalMembers, Members.Sorted,
    Json.canonicalItems_iff]

/-- Buyers in a schema and in an interface, with the fields that either requires. -/
def buyers (ours theirs : List String) : CorpusSnapshot :=
  ⟨[⟨.unreleased, true, FamilyTable.empty.insert .agenticCheckout
    (.ofDefinitions "Buyer" (requiring ours) (requiring theirs) (canonical_requiring ours)
      (canonical_requiring theirs))⟩]⟩

theorem requires_requiring {fields : List String} {field : String} :
    Requires (requiring fields) field ↔ field ∈ fields := by
  have hrequired : (Node.mk [("required", .ofStrings fields)]).required = fields := by
    show (fields.map Json.string).filterMap Json.text? = fields
    rw [List.filterMap_map]
    exact List.filterMap_some
  simp only [Requires, requiring, Node.ofJson?, Json.members?, Option.map_some,
    Option.some.injEq, exists_eq_left', hrequired]

/-- The schema alone requires a name, which it lists twice. The order in which fields are listed
makes no difference. -/
theorem required_drift_exact_buyers :
    let place : Place := ⟨0, .unreleased, .agenticCheckout, "Buyer"⟩
    let ours := ["name", "email", "name"]
    let theirs := ["email"]
    let found : Drift := ⟨place, .jsonSchema, .openApi, "name"⟩
    (buyers ours theirs).definition? .jsonSchema place = some (requiring ours) ∧
      (buyers ours theirs).definition? .openApi place = some (requiring theirs) ∧
      (buyers theirs ours).definition? .jsonSchema place = some (requiring theirs) ∧
      (buyers theirs ours).definition? .openApi place = some (requiring ours) ∧
      found ∈ (buyers ours theirs).drifts ∧ found.exchanged ∈ (buyers theirs ours).drifts ∧
      ∀ drift ∈ (buyers ours ["email", "name"]).drifts, drift.place ≠ place := by
  intro place ours theirs found
  have hfound : found ∈ (buyers ours theirs).drifts := by
    obtain ⟨-, -, -, -, hmem, -⟩ := required_drift_exact .standard (buyers ours theirs)
    refine (hmem found).2
      ⟨Or.inl ⟨rfl, rfl⟩, ⟨requiring ours, rfl, ?_⟩, ⟨requiring theirs, rfl, ?_⟩⟩
    · rw [requires_requiring]
      decide
    · rw [requires_requiring]
      decide
  obtain ⟨-, -, -, -, -, hplace⟩ := required_drift_exact .standard (buyers ours theirs)
  obtain ⟨-, hexchanged⟩ := hplace place (requiring ours) (requiring theirs) rfl rfl
  obtain ⟨-, -, -, -, -, hagree⟩ := required_drift_exact .standard (buyers ours ["email", "name"])
  obtain ⟨hsilent, -⟩ := hagree place (requiring ours) (requiring ["email", "name"]) rfl rfl
  refine ⟨rfl, rfl, rfl, rfl, hfound, ?_, hsilent.2 fun field => ?_⟩
  · exact (hexchanged (buyers theirs ours) rfl rfl found.exchanged rfl).2 hfound
  · rw [requires_requiring, requires_requiring]
    simp only [ours, List.mem_cons, List.not_mem_nil]
    tauto

end SpecLint
