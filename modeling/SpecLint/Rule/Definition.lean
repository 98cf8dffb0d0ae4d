import SpecLint.Rule.Basic
import SpecLint.Schema.Node

/-!
Which definitions a family has, and what they require. A family has no definition that belongs to
another family, and a definition that a schema and an interface share requires the same fields in
both.
-/

namespace SpecLint.Rule

open Schema

/-- The definitions of a document among those that its family may not have. -/
def prohibitedIn (version : VersionTag) (family : Family) (names : List String)
    (document : JsonSchemaDocument) : List Finding :=
  (names.filter document.hasDefinition).map fun name =>
    .error .prohibitedSchema
      ("Prohibited schema " ++ inQuotes name ++ " found in " ++ family.text)
      { Context.ofArtifact version family .jsonSchema with
        schema := some name
        reason := some (name ++ " should only be in webhook spec, not " ++ family.text) }

/-- No schema defines what its family may not have. -/
def prohibitedSchema : Rule where
  id := .prohibitedSchema
  check snapshot config := snapshot.inVersions fun entry =>
    config.prohibited.entries.flatMap fun (family, names) =>
      match (entry.families.get? family).bind (·.jsonSchema.document?) with
      | some document => prohibitedIn entry.version family names document
      | none => []

/-- The fields that a definition requires, in order, each once. -/
def requiredFields (value : Json) : List String :=
  match Node.ofJson? value with
  | some node => node.required.eraseDups.mergeSort fun a b => !decide (b < a)
  | none => []

/-- The finding about a field that only one of two artifacts requires. -/
def oneSided (version : VersionTag) (family : Family) (name : String)
    (requires omits : ArtifactKind) (field : String) : Finding :=
  .warning .requiredConsistency
    ("Field " ++ inQuotes field ++ " of " ++ inQuotes name ++ " is required in " ++
      requires.label ++ " but not in " ++ omits.label ++ " for " ++ coordinates version family)
    { Context.ofArtifact version family requires with schema := some name, field := some field }

/-- The fields that only one of two definitions requires: first those of the schema, then those of
the interface. -/
def driftOf (version : VersionTag) (family : Family) (name : String) (inSchema inOpenApi : Json) :
    List Finding :=
  let ours := requiredFields inSchema
  let theirs := requiredFields inOpenApi
  (ours.filter (!theirs.contains ·)).map (oneSided version family name .jsonSchema .openApi) ++
    (theirs.filter (!ours.contains ·)).map (oneSided version family name .openApi .jsonSchema)

/-- The fields that only one of the two artifacts of a family requires. -/
def familyDrift (version : VersionTag) (family : Family) (artifacts : FamilyArtifacts) :
    List Finding :=
  match artifacts.jsonSchema.document?, artifacts.openApi.document? with
  | some schema, some interface =>
    schema.definitions.flatMap fun (name, value) =>
      match interface.schema? name with
      | some other => driftOf version family name value other
      | none => []
  | _, _ => []

/-- Schemas and interfaces agree on required fields. -/
def requiredConsistency : Rule where
  id := .requiredConsistency
  check snapshot _ := snapshot.inVersions fun entry => entry.inFamilies (familyDrift entry.version)

end SpecLint.Rule
