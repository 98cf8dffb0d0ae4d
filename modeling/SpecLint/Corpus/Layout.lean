import SpecLint.Coordinate.FamilyTable
import SpecLint.Coordinate.Version
import SpecLint.Files.Tree

/-!
Where the artifacts of a corpus are: schemas and interfaces below `spec`, by version and kind, and
examples below `examples`, by version. `family?_fileName` says that the family is read back from the
name of a file.
-/

namespace SpecLint

namespace ArtifactKind

/-- What the names of files of a kind start with. -/
def fileStart : ArtifactKind → String
  | .jsonSchema => "schema."
  | .openApi => "openapi."
  | .examples => "examples."

/-- What the names of files of a kind end with. -/
def fileEnd : ArtifactKind → String
  | .jsonSchema | .examples => ".json"
  | .openApi => ".yaml"

/-- The name of a family's file. -/
def fileName (kind : ArtifactKind) (family : Family) : String :=
  kind.fileStart ++ family.text ++ kind.fileEnd

/-- The text between the start and the end of the name of a file. -/
def stem? (kind : ArtifactKind) (name : String) : Option String :=
  match Text.afterStart kind.fileStart.toList name.toList with
  | none => none
  | some rest =>
    (Text.afterStart kind.fileEnd.toList.reverse rest.reverse).map fun stem =>
      String.ofList stem.reverse

/-- The family whose file has a name. -/
def family? (kind : ArtifactKind) (name : String) : Option Family :=
  (kind.stem? name).bind fun stem => (Family.parse stem).toOption

theorem stem?_fileName (kind : ArtifactKind) (family : Family) :
    kind.stem? (kind.fileName family) = some family.text := by
  have h : Text.afterStart kind.fileStart.toList (kind.fileName family).toList =
      some (family.text.toList ++ kind.fileEnd.toList) :=
    Text.afterStart_eq_some_iff.2 (by simp [fileName, String.toList_append])
  have h' : Text.afterStart kind.fileEnd.toList.reverse
      (kind.fileEnd.toList.reverse ++ family.text.toList.reverse) =
        some family.text.toList.reverse :=
    Text.afterStart_eq_some_iff.2 rfl
  simp [stem?, h, h']

theorem family?_fileName (kind : ArtifactKind) (family : Family) :
    kind.family? (kind.fileName family) = some family := by
  simp [family?, stem?_fileName, Family.parse_text, Except.toOption]

/-- The directory of a kind and a version, by components from the root of the corpus. -/
def directory (kind : ArtifactKind) (version : VersionTag) : List String :=
  match kind with
  | .jsonSchema | .openApi => ["spec", version.text, kind.name]
  | .examples => ["examples", version.text]

/-- The place of an artifact, by components from the root of the corpus. -/
def place (kind : ArtifactKind) (version : VersionTag) (family : Family) : List String :=
  kind.directory version ++ [kind.fileName family]

end ArtifactKind

/-- A corpus in a directory. -/
structure Corpus where
  files : FileSystem
  root : FilePath

namespace Corpus

def versionDirectory (corpus : Corpus) (version : VersionTag) : FilePath :=
  corpus.root.joinAll ["spec", version.text]

/-- Whether there is a directory of a version. -/
def hasVersion (corpus : Corpus) (version : VersionTag) : Bool :=
  corpus.files.isDirectory (corpus.versionDirectory version)

def artifactPath (corpus : Corpus) (version : VersionTag) (family : Family) (kind : ArtifactKind) :
    FilePath :=
  corpus.root.joinAll (kind.place version family)

/-- The families with an artifact of a kind, in order. -/
def families (corpus : Corpus) (version : VersionTag) (kind : ArtifactKind) : List Family :=
  Family.distinct ((corpus.files.list (corpus.root.joinAll (kind.directory version))).filterMap
    kind.family?)

/-- The families with a schema or an interface, in order. -/
def specFamilies (corpus : Corpus) (version : VersionTag) : List Family :=
  Family.distinct (corpus.families version .jsonSchema ++ corpus.families version .openApi)

end Corpus

end SpecLint
