import SpecLint.BuiltIn
import SpecLint.Corpus.Snapshot
import SpecLint.Proofs.FamilyTable

/-!
What a snapshot finds in the files of a corpus. The name of a file tells its family exactly when it
is the name that the family's file has (`family?_eq_some_iff`), so that going through a directory
finds the families whose files are there and no others. What is loaded for a family is decided by
the file at each of its paths, if there is one.
-/

namespace SpecLint

/-! ### The families in a directory -/

namespace ArtifactKind

theorem eq_of_stem?_eq_some {kind : ArtifactKind} {name stem : String}
    (h : kind.stem? name = some stem) : name = kind.fileStart ++ stem ++ kind.fileEnd := by
  unfold stem? at h
  cases hstart : Text.afterStart kind.fileStart.toList name.toList with
  | none =>
      rw [hstart] at h
      cases h
  | some rest =>
      rw [hstart] at h
      obtain ⟨reversed, hend, rfl⟩ := Option.map_eq_some_iff.1 h
      have hname := Text.afterStart_eq_some_iff.1 hstart
      have hrest : rest = reversed.reverse ++ kind.fileEnd.toList := by
        simpa using congrArg List.reverse (Text.afterStart_eq_some_iff.1 hend)
      apply String.toList_injective
      simp [hname, hrest]

/-- The name of a file tells a family if it is the name of this family's file. -/
theorem family?_eq_some_iff {kind : ArtifactKind} {name : String} {family : Family} :
    kind.family? name = some family ↔ name = kind.fileName family := by
  constructor
  · intro h
    obtain ⟨stem, hstem, hparse⟩ := Option.bind_eq_some_iff.1 h
    have hfamily : Family.parse stem = .ok family := by
      cases hresult : Family.parse stem with
      | error error =>
          rw [hresult] at hparse
          cases hparse
      | ok read =>
          rw [hresult] at hparse
          cases hparse
          rfl
    rw [eq_of_stem?_eq_some hstem, ← Family.parse_eq_ok_iff.1 hfamily]
    rfl
  · rintro rfl
    exact kind.family?_fileName family

example : ["schema.cart.v2.json", "schema.json", "schema..json", "openapi.cart.json"].map
    (fun name => (ArtifactKind.jsonSchema.family? name).map Family.text) =
      [some "cart.v2", none, none, none] := by decide

end ArtifactKind

namespace Corpus

variable {corpus : Corpus} {version : VersionTag} {family : Family}

theorem mem_families_iff {kind : ArtifactKind} :
    family ∈ corpus.families version kind ↔
      kind.fileName family ∈ corpus.files.list (corpus.root.joinAll (kind.directory version)) := by
  simp [families, Family.mem_distinct_iff, ArtifactKind.family?_eq_some_iff]

theorem mem_specFamilies_iff :
    family ∈ corpus.specFamilies version ↔
      ArtifactKind.jsonSchema.fileName family ∈
          corpus.files.list (corpus.root.joinAll (ArtifactKind.jsonSchema.directory version)) ∨
        ArtifactKind.openApi.fileName family ∈
          corpus.files.list (corpus.root.joinAll (ArtifactKind.openApi.directory version)) := by
  rw [specFamilies, Family.mem_distinct_iff, List.mem_append, mem_families_iff, mem_families_iff]

end Corpus

/-! ### The file of an artifact -/

theorem FileSystem.isFile_iff {files : FileSystem} {path : FilePath} :
    files.isFile path = true ↔ ∃ content, files.locate path = .ok (.file content) := by
  unfold isFile
  rcases files.locate path with _ | (_ | _) <;> simp [Except.toOption, FileTree.isDirectory]

theorem FileSystem.isDirectory_iff {files : FileSystem} {path : FilePath} :
    files.isDirectory path = true ↔ ∃ entries, files.locate path = .ok (.directory entries) := by
  unfold isDirectory
  rcases files.locate path with _ | (_ | _) <;> simp [Except.toOption, FileTree.isDirectory]

namespace Artifact

variable {α : Type}

theorem ofResult_ne_missing (result : Except DocumentError α) : ofResult result ≠ .missing := by
  cases result <;> simp [ofResult]

theorem ofResult_eq_malformed_iff {result : Except DocumentError α} {error : DocumentError} :
    ofResult result = .malformed error ↔ result = .error error := by
  cases result <;> simp [ofResult]

end Artifact

/-- The artifact is what is made of the file at a path, if there is one: nothing but its bytes can
keep a file from being read. -/
structure Artifact.IsFoundAt {α : Type} (artifact : Artifact α) (files : FileSystem)
    (path : FilePath) (parse : String → Except DocumentError α) : Prop where
  missing_iff : artifact = .missing ↔ ¬∃ content, files.locate path = .ok (.file content)
  unreadable_iff : (∃ shown reason, artifact = .malformed (.unreadable shown reason)) ↔
    ∃ content, files.locate path = .ok (.file content) ∧ ¬content.IsValidUTF8
  unreadable : ∀ shown reason, artifact = .malformed (.unreadable shown reason) →
    shown = path.text ∧ reason = FileError.notUtf8.message
  parsed : ∀ text : String, files.locate path = .ok (.file text.toUTF8) →
    artifact = .ofResult (parse text)

/-- A reader that is given a text does not complain that there is none. -/
def TakesText {α : Type} (parse : String → Except DocumentError α) : Prop :=
  ∀ text shown reason, parse text ≠ .error (.unreadable shown reason)

theorem Root.ofJson_ne_unreadable (value : Json) (shown reason : String) :
    Root.ofJson value ≠ .error (.unreadable shown reason) := by
  unfold ofJson
  split <;> intro h <;> cases h

theorem Root.takesText_ofJsonText (readers : Readers) : TakesText (Root.ofJsonText readers) := by
  intro text shown reason h
  unfold ofJsonText at h
  split at h
  · cases h
  · exact ofJson_ne_unreadable _ shown reason h

theorem Root.takesText_ofYamlText (readers : Readers) : TakesText (Root.ofYamlText readers) := by
  intro text shown reason h
  unfold ofYamlText at h
  split at h
  · cases h
  · split at h
    · cases h
    · exact ofJson_ne_unreadable _ shown reason h

theorem TakesText.map {α β : Type} {parse : String → Except DocumentError α}
    (hparse : TakesText parse) (f : α → β) : TakesText fun text => (parse text).map f := by
  intro text shown reason h
  replace h : (parse text).map f = .error (.unreadable shown reason) := h
  cases hresult : parse text with
  | error error =>
      rw [hresult] at h
      cases h
      exact hparse text shown reason hresult
  | ok document =>
      rw [hresult] at h
      cases h

namespace Corpus

theorem load_isFoundAt (corpus : Corpus) (version : VersionTag) (family : Family)
    (kind : ArtifactKind) {α : Type} {parse : String → Except DocumentError α}
    (hparse : TakesText parse) :
    (corpus.load version family kind parse).IsFoundAt corpus.files
      (corpus.artifactPath version family kind) parse := by
  unfold load
  by_cases hfile : corpus.files.isFile (corpus.artifactPath version family kind) = true
  · obtain ⟨content, hcontent⟩ := FileSystem.isFile_iff.1 hfile
    have hread : corpus.files.readText (corpus.artifactPath version family kind) =
        (FileTree.file content).text := by
      rw [FileSystem.readText, hcontent]
      rfl
    simp only [hfile, if_true, hread, FileTree.text, String.fromUTF8?]
    by_cases hvalid : content.IsValidUTF8
    · rw [dif_pos hvalid]
      have hnone : ∀ shown reason, Artifact.ofResult (parse (String.fromUTF8 content hvalid)) ≠
          .malformed (.unreadable shown reason) :=
        fun shown reason h => hparse _ _ _ (Artifact.ofResult_eq_malformed_iff.1 h)
      refine ⟨?_, ?_, ?_, ?_⟩
      · simp [Artifact.ofResult_ne_missing, hcontent]
      · simp [hnone, hcontent, hvalid]
      · intro shown reason h
        exact absurd h (hnone shown reason)
      · intro text htext
        rw [hcontent] at htext
        cases htext
        rfl
    · rw [dif_neg hvalid]
      refine ⟨by simp [hcontent], by simp [hcontent, hvalid], ?_, ?_⟩
      · intro shown reason h
        cases h
        exact ⟨rfl, rfl⟩
      · intro text htext
        rw [hcontent] at htext
        cases htext
        exact absurd text.isValidUTF8 hvalid
  · have hnone : ∀ content, corpus.files.locate (corpus.artifactPath version family kind) ≠
        .ok (.file content) := fun content h => hfile (FileSystem.isFile_iff.2 ⟨content, h⟩)
    simp only [hfile]
    refine ⟨by simp [hnone], by simp [hnone], ?_, fun text h => absurd h (hnone _)⟩
    intro shown reason h
    cases h

end Corpus

/-! ### Snapshots -/

/-- The artifacts are those at the three paths of a family. -/
structure FamilyArtifacts.IsFoundIn (artifacts : FamilyArtifacts) (readers : Readers)
    (corpus : Corpus) (version : VersionTag) (family : Family) : Prop where
  jsonSchema : artifacts.jsonSchema.IsFoundAt corpus.files
    (corpus.artifactPath version family .jsonSchema) (JsonSchemaDocument.parse readers)
  openApi : artifacts.openApi.IsFoundAt corpus.files
    (corpus.artifactPath version family .openApi) (OpenApiDocument.parse readers)
  examples : artifacts.examples.IsFoundAt corpus.files
    (corpus.artifactPath version family .examples) (ExampleSet.parse readers)

/-- The entry holds what there is of a version: each family that has a schema or an interface, in
order of names and once. -/
structure VersionSnapshot.IsFoundIn (entry : VersionSnapshot) (readers : Readers)
    (corpus : Corpus) (version : VersionTag) : Prop where
  version_eq : entry.version = version
  present_iff : entry.present = true ↔
    ∃ entries, corpus.files.locate (corpus.root.joinAll ["spec", version.text]) =
      .ok (.directory entries)
  families_of_absent : entry.present = false → entry.families.families = []
  ordered : entry.families.families.Pairwise fun a b => a.text < b.text
  mem_families_iff : entry.present = true → ∀ family : Family, family ∈ entry.families.families ↔
    "schema." ++ family.text ++ ".json" ∈
        corpus.files.list (corpus.root.joinAll ["spec", version.text, "json-schema"]) ∨
      "openapi." ++ family.text ++ ".yaml" ∈
        corpus.files.list (corpus.root.joinAll ["spec", version.text, "openapi"])
  artifacts : ∀ family ∈ entry.families.families, ∃ artifacts,
    entry.families.get? family = some artifacts ∧
      artifacts.IsFoundIn readers corpus version family

namespace Corpus

theorem loadFamily_isFoundIn (corpus : Corpus) (readers : Readers) (version : VersionTag)
    (family : Family) :
    (corpus.loadFamily readers version family).IsFoundIn readers corpus version family where
  jsonSchema :=
    corpus.load_isFoundAt version family .jsonSchema ((Root.takesText_ofJsonText readers).map _)
  openApi :=
    corpus.load_isFoundAt version family .openApi ((Root.takesText_ofYamlText readers).map _)
  examples :=
    corpus.load_isFoundAt version family .examples ((Root.takesText_ofJsonText readers).map _)

theorem families_snapshotVersion {corpus : Corpus} (readers : Readers) {version : VersionTag}
    {family : Family} (h : corpus.hasVersion version = true) :
    family ∈ (corpus.snapshotVersion readers version).families.families ↔
      family ∈ corpus.specFamilies version := by
  rw [snapshotVersion, if_pos h, FamilyTable.mem_families_iff, FamilyTable.get?_ofList_map]
  simp

theorem snapshotVersion_isFoundIn (corpus : Corpus) (readers : Readers) (version : VersionTag) :
    (corpus.snapshotVersion readers version).IsFoundIn readers corpus version := by
  have hdirectory : corpus.hasVersion version = true ↔ ∃ entries, corpus.files.locate
      (corpus.root.joinAll ["spec", version.text]) = .ok (.directory entries) :=
    FileSystem.isDirectory_iff
  cases hversion : corpus.hasVersion version with
  | true =>
      have hpresent : (corpus.snapshotVersion readers version).present = true := by
        simp [snapshotVersion, hversion]
      refine ⟨by simp [snapshotVersion, hversion], ?_, ?_, FamilyTable.pairwise_families _, ?_, ?_⟩
      · simp [hpresent, ← hdirectory, hversion]
      · simp [hpresent]
      · intro _ family
        rw [families_snapshotVersion readers hversion, mem_specFamilies_iff]
        rfl
      · intro family hfamily
        have hlisted := (families_snapshotVersion readers hversion).1 hfamily
        refine ⟨_, ?_, corpus.loadFamily_isFoundIn readers version family⟩
        rw [snapshotVersion, if_pos hversion, FamilyTable.get?_ofList_map, if_pos hlisted]
  | false =>
      have habsent : corpus.snapshotVersion readers version = ⟨version, false, .empty⟩ := by
        simp [snapshotVersion, hversion]
      rw [habsent]
      refine ⟨rfl, ?_, fun _ => rfl, .nil, by simp, fun family hfamily => by cases hfamily⟩
      simp [← hdirectory, hversion]

/-- A snapshot has one entry for each version that is listed, in order, and each holds what there is
of its version, as the readers of texts find it. In which order the directories list their files, and
even where they are, makes no difference to the families that are found. -/
theorem snapshot_finds_families (readers : Readers) (corpus : Corpus)
    (versions : List VersionTag) :
    List.Forall₂ (fun entry version => entry.IsFoundIn readers corpus version)
      (corpus.snapshot readers versions).versions versions ∧
    ∀ (other : Corpus) (version : VersionTag),
      other.hasVersion version = corpus.hasVersion version →
      (∀ kind : ArtifactKind,
        (other.files.list (other.root.joinAll (kind.directory version))).Perm
          (corpus.files.list (corpus.root.joinAll (kind.directory version)))) →
      (other.snapshotVersion readers version).families.families =
        (corpus.snapshotVersion readers version).families.families := by
  constructor
  · rw [snapshot, List.forall₂_map_left_iff, List.forall₂_same]
    exact fun version _ => corpus.snapshotVersion_isFoundIn readers version
  · intro other version hpresent hlists
    refine FamilyTable.families_eq_of_mem_iff fun family => ?_
    cases hversion : corpus.hasVersion version with
    | true =>
        rw [families_snapshotVersion readers hversion,
          families_snapshotVersion readers (hpresent.trans hversion), mem_specFamilies_iff,
          mem_specFamilies_iff, (hlists _).mem_iff, (hlists _).mem_iff]
    | false => simp [snapshotVersion, hpresent, hversion]

/-- A corpus with files of schemas in the version that is still edited, listed in some order. -/
def ofSchemaFiles (names : List String) : Corpus :=
  ⟨⟨.directory [("corpus", .directory [("spec", .directory [("unreleased", .directory
      [("json-schema", .directory (names.map fun name => (name, .file ⟨#[]⟩)))])])])], ⟨"/"⟩⟩,
    ⟨"/corpus"⟩⟩

/-- Two families and a file of neither, listed in two orders. -/
theorem snapshot_finds_families_relisted :
    let corpus := ofSchemaFiles
      ["schema.delegate_payment.json", "notes.txt", "schema.agentic_checkout.json"]
    let other := ofSchemaFiles
      ["schema.agentic_checkout.json", "schema.delegate_payment.json", "notes.txt"]
    (corpus.snapshotVersion .builtIn .unreleased).IsFoundIn .builtIn corpus .unreleased ∧
      (corpus.snapshotVersion .builtIn .unreleased).families.families =
        [.agenticCheckout, .delegatePayment] ∧
      other.hasVersion .unreleased = corpus.hasVersion .unreleased ∧
      (∀ kind : ArtifactKind,
        (other.files.list (other.root.joinAll (kind.directory .unreleased))).Perm
          (corpus.files.list (corpus.root.joinAll (kind.directory .unreleased)))) ∧
      (other.snapshotVersion .builtIn .unreleased).families.families =
        (corpus.snapshotVersion .builtIn .unreleased).families.families := by
  intro corpus other
  have hpresent : other.hasVersion .unreleased = corpus.hasVersion .unreleased := by
    decide +kernel
  have hlists : ∀ kind : ArtifactKind,
      (other.files.list (other.root.joinAll (kind.directory .unreleased))).Perm
        (corpus.files.list (corpus.root.joinAll (kind.directory .unreleased))) := by
    intro kind
    cases kind <;> decide +kernel
  obtain ⟨hfound, hsame⟩ := snapshot_finds_families .builtIn corpus [.unreleased]
  obtain ⟨hentry, -⟩ := List.forall₂_cons.1 hfound
  exact ⟨hentry, by decide +kernel, hpresent, hlists, hsame other .unreleased hpresent hlists⟩

end Corpus

end SpecLint
