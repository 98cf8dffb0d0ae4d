import SpecLint.Proofs.Grounding

/-!
The definitions of a snapshot with the places where they stand. A rule that looks at definitions
goes through the entries of a snapshot, the families of an entry, and the definitions in an artifact
of a family. All of this is going through one list (`inVersions_inFamilies_eq`), in which every
definition stands once, by the place at which it is looked up (`mem_definitions_iff`), and in the
order of places (`pairwise_definitions`).
-/

namespace SpecLint

open Schema

/-- Where a definition stands: in which entry of a snapshot, which is one of a version, in which
family, and under which name. -/
structure Place where
  index : Nat
  version : VersionTag
  family : Family
  name : String
deriving DecidableEq

/-- One place comes before another: by entries, in an entry by families, in a family by names. -/
inductive Place.Before (a b : Place) : Prop
  | entry (h : a.index < b.index)
  | family (hindex : a.index = b.index) (h : a.family.text < b.family.text)
  | name (hindex : a.index = b.index) (hfamily : a.family = b.family) (h : a.name < b.name)

theorem Place.before_irrefl (place : Place) : ¬place.Before place := by
  intro h
  cases h with
  | entry h => exact Nat.lt_irrefl _ h
  | family _ h => exact String.lt_irrefl _ h
  | name _ _ h => exact String.lt_irrefl _ h

namespace FamilyArtifacts

/-- The definitions in an artifact; those beside examples are the definitions of the schema. -/
def definitions (artifacts : FamilyArtifacts) : ArtifactKind → Members
  | .openApi => (artifacts.openApi.document?.map OpenApiDocument.schemas).getD []
  | .jsonSchema | .examples =>
    (artifacts.jsonSchema.document?.map JsonSchemaDocument.definitions).getD []

theorem get?_definitions (artifacts : FamilyArtifacts) (kind : ArtifactKind) (name : String) :
    (artifacts.definitions kind).get? name = artifacts.definition? kind name := by
  cases kind with
  | openApi => rw [definitions, definition?]; cases artifacts.openApi.document? <;> rfl
  | jsonSchema | examples =>
      rw [definitions, definition?]; cases artifacts.jsonSchema.document? <;> rfl

theorem canonical_definitions (artifacts : FamilyArtifacts) (kind : ArtifactKind) :
    (Json.object (artifacts.definitions kind)).Canonical := by
  cases kind with
  | openApi =>
      rw [definitions]
      cases artifacts.openApi.document? with
      | none => exact ⟨.nil, trivial⟩
      | some document => exact document.canonical_schemas
  | jsonSchema | examples =>
      rw [definitions]
      cases artifacts.jsonSchema.document? with
      | none => exact ⟨.nil, trivial⟩
      | some document => exact document.canonical_definitions

theorem mem_definitions_iff {artifacts : FamilyArtifacts} {kind : ArtifactKind} {name : String}
    {definition : Json} :
    (name, definition) ∈ artifacts.definitions kind ↔
      artifacts.definition? kind name = some definition := by
  rw [← get?_definitions]
  exact ⟨Members.get?_of_mem (artifacts.canonical_definitions kind).1, Members.mem_of_get?⟩

theorem canonical_of_definition? {artifacts : FamilyArtifacts} {kind : ArtifactKind} {name : String}
    {definition : Json} (h : artifacts.definition? kind name = some definition) :
    definition.Canonical :=
  Json.canonical_of_mem (artifacts.canonical_definitions kind) (mem_definitions_iff.2 h)

/-- A schema and an interface with one definition each, of the same name. -/
def ofDefinitions (name : String) (ours theirs : Json) (hours : ours.Canonical)
    (htheirs : theirs.Canonical) : FamilyArtifacts where
  jsonSchema := .parsed ⟨[("$defs", .object [(name, ours)])], by
    simp [Json.Canonical, Json.CanonicalMembers, Members.Sorted, hours]⟩
  openApi := .parsed ⟨[("components", .object [("schemas", .object [(name, theirs)])])], by
    simp [Json.Canonical, Json.CanonicalMembers, Members.Sorted, htheirs]⟩
  examples := .missing

end FamilyArtifacts

namespace CorpusSnapshot

variable {snapshot : CorpusSnapshot} {kind : ArtifactKind} {place : Place} {definition : Json}

/-- The artifacts of the family in which a place is. -/
def artifactsAt? (snapshot : CorpusSnapshot) (place : Place) : Option FamilyArtifacts :=
  (snapshot.versions[place.index]?.filter (·.version == place.version)).bind fun entry =>
    entry.families.get? place.family

/-- The definition at a place. -/
def definition? (snapshot : CorpusSnapshot) (kind : ArtifactKind) (place : Place) : Option Json :=
  (snapshot.artifactsAt? place).bind (·.definition? kind place.name)

/-- The definitions in the artifacts of a kind with their places. -/
def definitions (snapshot : CorpusSnapshot) (kind : ArtifactKind) : List (Place × Json) :=
  snapshot.versions.zipIdx.flatMap fun (entry, index) =>
    entry.families.entries.flatMap fun (family, artifacts) =>
      (artifacts.definitions kind).map fun (name, definition) =>
        (⟨index, entry.version, family, name⟩, definition)

theorem artifactsAt?_eq_some_iff {artifacts : FamilyArtifacts} :
    snapshot.artifactsAt? place = some artifacts ↔
      ∃ entry, snapshot.versions[place.index]? = some entry ∧ entry.version = place.version ∧
        entry.families.get? place.family = some artifacts := by
  simp only [artifactsAt?, Option.bind_eq_some_iff, Option.filter_eq_some_iff, beq_iff_eq,
    and_assoc]

theorem canonical_of_definition? (h : snapshot.definition? kind place = some definition) :
    definition.Canonical := by
  obtain ⟨artifacts, -, hdefinition⟩ := Option.bind_eq_some_iff.1 h
  exact FamilyArtifacts.canonical_of_definition? hdefinition

theorem mem_definitions_iff :
    (place, definition) ∈ snapshot.definitions kind ↔
      snapshot.definition? kind place = some definition := by
  simp only [definitions, List.mem_flatMap, List.mem_map, Prod.exists, Prod.mk.injEq,
    List.mk_mem_zipIdx_iff_getElem?, FamilyArtifacts.mem_definitions_iff,
    ← FamilyTable.get?_eq_some_iff, definition?, Option.bind_eq_some_iff, artifactsAt?_eq_some_iff]
  constructor
  · rintro ⟨entry, index, hentry, family, artifacts, hfamily, name, _, hname, rfl, rfl⟩
    exact ⟨artifacts, ⟨entry, hentry, rfl, hfamily⟩, hname⟩
  · rintro ⟨artifacts, ⟨entry, hentry, hversion, hfamily⟩, hname⟩
    refine ⟨entry, place.index, hentry, place.family, artifacts, hfamily, place.name, definition,
      hname, ?_, rfl⟩
    rw [hversion]

theorem pairwise_definitions (snapshot : CorpusSnapshot) (kind : ArtifactKind) :
    (snapshot.definitions kind).Pairwise fun a b => a.1.Before b.1 := by
  refine List.pairwise_flatMap.2 ⟨?_, ?_⟩
  · rintro ⟨entry, index⟩ -
    refine List.pairwise_flatMap.2 ⟨?_, ?_⟩
    · rintro ⟨family, artifacts⟩ -
      exact List.pairwise_map.2
        ((artifacts.canonical_definitions kind).1.imp fun h => .name rfl rfl h)
    · refine entry.families.ordered.imp ?_
      intro row other hlt a ha b hb
      obtain ⟨_, -, rfl⟩ := List.mem_map.1 ha
      obtain ⟨_, -, rfl⟩ := List.mem_map.1 hb
      exact .family rfl hlt
  · refine (pairwise_zipIdx _ 0).imp ?_
    intro a b hlt x hx y hy
    obtain ⟨_, -, hx⟩ := List.mem_flatMap.1 hx
    obtain ⟨_, -, rfl⟩ := List.mem_map.1 hx
    obtain ⟨_, -, hy⟩ := List.mem_flatMap.1 hy
    obtain ⟨_, -, rfl⟩ := List.mem_map.1 hy
    exact .entry hlt

/-- Going through the families of all entries for what stands in their definitions is going through
the definitions of the snapshot. -/
theorem inVersions_inFamilies_eq (kind : ArtifactKind) (foundAt : Place → Json → List Finding)
    {found : VersionTag → Family → FamilyArtifacts → List Finding}
    (h : ∀ index version family artifacts,
      (∀ name, snapshot.artifactsAt? ⟨index, version, family, name⟩ = some artifacts) →
      found version family artifacts = (artifacts.definitions kind).flatMap fun row =>
        foundAt ⟨index, version, family, row.1⟩ row.2) :
    (snapshot.inVersions fun entry => entry.inFamilies (found entry.version)) =
      (snapshot.definitions kind).flatMap fun row => foundAt row.1 row.2 := by
  have hversions : snapshot.versions = snapshot.versions.zipIdx.map Prod.fst :=
    (List.zipIdx_map_fst 0 snapshot.versions).symm
  unfold inVersions definitions
  rw [hversions, List.flatMap_map, ← hversions, List.flatMap_assoc]
  refine List.flatMap_congr ?_
  rintro ⟨entry, index⟩ hentry
  unfold VersionSnapshot.inFamilies
  rw [List.flatMap_assoc]
  refine List.flatMap_congr ?_
  rintro ⟨family, artifacts⟩ hfamily
  rw [List.flatMap_map]
  refine h index entry.version family artifacts fun name => artifactsAt?_eq_some_iff.2 ?_
  exact ⟨entry, List.mk_mem_zipIdx_iff_getElem?.1 hentry, rfl,
    FamilyTable.get?_eq_some_iff.2 hfamily⟩

end CorpusSnapshot

end SpecLint
