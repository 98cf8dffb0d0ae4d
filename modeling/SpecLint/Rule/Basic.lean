import SpecLint.Config.Basic
import SpecLint.Corpus.Snapshot
import SpecLint.Finding.Basic

/-!
Rules: functions from a snapshot and a configuration to findings. Most rules look at one family of
one version at a time; `inFamilies` and `inVersions` put what they find in order.
-/

namespace SpecLint

/-- A check of a corpus. -/
structure Rule where
  id : RuleId
  check : CorpusSnapshot → Config → List Finding

/-- What is found in the families of a version, in order of families. -/
def VersionSnapshot.inFamilies (entry : VersionSnapshot)
    (findings : Family → FamilyArtifacts → List Finding) : List Finding :=
  entry.families.entries.flatMap fun (family, artifacts) => findings family artifacts

/-- What is found in the versions of a snapshot, in their order. -/
def CorpusSnapshot.inVersions (snapshot : CorpusSnapshot)
    (findings : VersionSnapshot → List Finding) : List Finding :=
  snapshot.versions.flatMap findings

/-- What is found in the version that is still edited, if it is in the snapshot. -/
def CorpusSnapshot.inUnreleased (snapshot : CorpusSnapshot) (config : Config)
    (findings : VersionSnapshot → List Finding) : List Finding :=
  match snapshot.version? config.unreleased with
  | some entry => findings entry
  | none => []

/-- An artifact of a family of a version. -/
def Context.ofArtifact (version : VersionTag) (family : Family) (kind : ArtifactKind) : Context :=
  { Context.inFamily version family with artifact := some kind }

/-- A version and a family in a message. -/
def coordinates (version : VersionTag) (family : Family) : String :=
  version.text ++ "/" ++ family.text

/-- A name in quotes in a message. -/
def inQuotes (name : String) : String := "\"" ++ name ++ "\""

end SpecLint
