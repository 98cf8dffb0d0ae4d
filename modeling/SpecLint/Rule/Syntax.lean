import SpecLint.Rule.Basic

/-!
The rules of syntax: every artifact is there, can be read, and declares what it has to declare. Only
these rules report artifacts that are missing, and versions that are absent.
-/

namespace SpecLint.Rule

/-- What is wrong with a family's schema as a file. -/
def jsonSchemaState (version : VersionTag) (family : Family) (artifacts : FamilyArtifacts) :
    List Finding :=
  let place := coordinates version family
  let context := Context.ofArtifact version family .jsonSchema
  match artifacts.jsonSchema with
  | .parsed document =>
    if document.declaresDialect then []
    else [.error .jsonSchemaSyntax ("Missing $schema in " ++ place) context]
  | .malformed error =>
    [.error .jsonSchemaSyntax ("Invalid JSON in " ++ place ++ ": " ++ error.message) context]
  | .missing => [.warning .jsonSchemaSyntax ("JSON Schema not found for " ++ place) context]

/-- The finding about a version without a directory. -/
def absentVersion (version : VersionTag) : Finding :=
  .warning .jsonSchemaSyntax ("No spec artifacts found for version " ++ version.text)
    (.inVersion version)

/-- Schemas can be read and declare their dialect; versions have a directory. -/
def jsonSchemaSyntax : Rule where
  id := .jsonSchemaSyntax
  check snapshot _ := snapshot.inVersions fun entry =>
    if entry.present then entry.inFamilies (jsonSchemaState entry.version)
    else [absentVersion entry.version]

/-- What is wrong with a family's interface as a file. -/
def openApiState (version : VersionTag) (family : Family) (artifacts : FamilyArtifacts) :
    List Finding :=
  let place := coordinates version family
  let context := Context.ofArtifact version family .openApi
  match artifacts.openApi with
  | .parsed document =>
    if document.missingKeys.isEmpty then []
    else
      [.error .openApiSyntax
        ("Invalid OpenAPI structure in " ++ place ++ ": missing " ++
          ", ".intercalate document.missingKeys) context]
  | .malformed error =>
    [.error .openApiSyntax ("Invalid YAML in " ++ place ++ ": " ++ error.message) context]
  | .missing => [.warning .openApiSyntax ("OpenAPI not found for " ++ place) context]

/-- Interfaces can be read and declare the required keys. -/
def openApiSyntax : Rule where
  id := .openApiSyntax
  check snapshot _ := snapshot.inVersions fun entry => entry.inFamilies (openApiState entry.version)

end SpecLint.Rule
