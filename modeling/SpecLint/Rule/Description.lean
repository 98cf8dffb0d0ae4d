import SpecLint.Rule.Basic
import SpecLint.Schema.Walk

/-!
Descriptions in the version that is still edited: definitions and fields are described, and so are
the fields of interfaces.
-/

namespace SpecLint.Rule

open Schema

/-- The finding about a field without a description. -/
def undescribedField (rule : RuleId) (message : String) (context : Context) (path : FieldPath) :
    Finding :=
  .error rule (message ++ path.text)
    { context with schema := some path.label, field := some path.text }

def undescribedModels (context : Context) (definitions : Members) : List Finding :=
  (definitions.filter fun (_, value) =>
    (Node.ofJson? value).any fun node => node.description?.isNone).map fun (name, _) =>
      .error .fieldDescription ("Model " ++ inQuotes name ++ " is missing a description")
        { context with model := some name }

/-- The fields without a description, definition by definition. -/
def undescribedPaths (options : WalkOptions) (definitions : Members) : List FieldPath :=
  definitions.flatMap fun (name, value) => missingDescriptions value (.root name) options

/-- What is not described in the schema of a family: definitions first, then fields. -/
def undescribedInSchema (version : VersionTag) (family : Family) (artifacts : FamilyArtifacts) :
    List Finding :=
  match artifacts.jsonSchema.document? with
  | some document =>
    let context := Context.ofArtifact version family .jsonSchema
    undescribedModels context document.definitions ++
      (undescribedPaths .jsonSchema document.definitions).map
        (undescribedField .fieldDescription "Field is missing description: " context)
  | none => []

/-- Definitions and their fields are described. -/
def fieldDescription : Rule where
  id := .fieldDescription
  check snapshot config := snapshot.inUnreleased config fun entry =>
    entry.inFamilies (undescribedInSchema entry.version)

/-- The fields that are not described in the interface of a family. -/
def undescribedInInterface (version : VersionTag) (family : Family) (artifacts : FamilyArtifacts) :
    List Finding :=
  match artifacts.openApi.document? with
  | some document =>
    (undescribedPaths .openApi document.schemas).map
      (undescribedField .openApiDescription "OpenAPI field is missing description: "
        (Context.ofArtifact version family .openApi))
  | none => []

/-- The fields of interfaces are described. -/
def openApiDescription : Rule where
  id := .openApiDescription
  check snapshot config := snapshot.inUnreleased config fun entry =>
    entry.inFamilies (undescribedInInterface entry.version)

end SpecLint.Rule
