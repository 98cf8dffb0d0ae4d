import SpecLint.Corpus.Layout
import SpecLint.Document.Kind

/-!
Snapshots: everything that a run looks at, read once. Each version is present or absent, and each
artifact of its families is parsed, missing or malformed.
-/

namespace SpecLint

/-- An artifact as it was found. -/
inductive Artifact (α : Type) where
  | parsed (document : α)
  | missing
  | malformed (error : DocumentError)

namespace Artifact

variable {α : Type}

/-- The document, if there is one. -/
def document? : Artifact α → Option α
  | .parsed document => some document
  | .missing | .malformed _ => none

def isMissing : Artifact α → Bool
  | .missing => true
  | .parsed _ | .malformed _ => false

/-- A document that was read, or the reason why it cannot be. -/
def ofResult : Except DocumentError α → Artifact α
  | .ok document => .parsed document
  | .error error => .malformed error

end Artifact

/-- The artifacts of a family in one version. -/
structure FamilyArtifacts where
  jsonSchema : Artifact JsonSchemaDocument
  openApi : Artifact OpenApiDocument
  examples : Artifact ExampleSet

/-- The families of one version. -/
structure VersionSnapshot where
  version : VersionTag
  /-- Whether the version has a directory. -/
  present : Bool
  families : FamilyTable FamilyArtifacts

/-- The versions of a run, in order. -/
structure CorpusSnapshot where
  versions : List VersionSnapshot

namespace CorpusSnapshot

/-- The first entry of a version. -/
def version? (snapshot : CorpusSnapshot) (tag : VersionTag) : Option VersionSnapshot :=
  snapshot.versions.find? (·.version == tag)

end CorpusSnapshot

namespace Corpus

/-- One artifact as it is found. -/
def load {α : Type} (corpus : Corpus) (version : VersionTag) (family : Family)
    (kind : ArtifactKind) (parse : String → Except DocumentError α) : Artifact α :=
  let path := corpus.artifactPath version family kind
  if corpus.files.isFile path then
    match corpus.files.readText path with
    | .ok text => .ofResult (parse text)
    | .error error => .malformed (.unreadable path.text error.message)
  else .missing

def loadFamily (corpus : Corpus) (readers : Readers) (version : VersionTag) (family : Family) :
    FamilyArtifacts :=
  { jsonSchema := corpus.load version family .jsonSchema (JsonSchemaDocument.parse readers)
    openApi := corpus.load version family .openApi (OpenApiDocument.parse readers)
    examples := corpus.load version family .examples (ExampleSet.parse readers) }

/-- One version with all its families. -/
def snapshotVersion (corpus : Corpus) (readers : Readers) (version : VersionTag) :
    VersionSnapshot :=
  if corpus.hasVersion version then
    { version
      present := true
      families := .ofList ((corpus.specFamilies version).map fun family =>
        (family, corpus.loadFamily readers version family)) }
  else { version, present := false, families := .empty }

def snapshot (corpus : Corpus) (readers : Readers) (versions : List VersionTag) : CorpusSnapshot :=
  ⟨versions.map (corpus.snapshotVersion readers)⟩

end Corpus

end SpecLint
