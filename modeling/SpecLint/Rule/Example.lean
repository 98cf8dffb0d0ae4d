import SpecLint.Rule.Basic
import SpecLint.Schema.Node

/-!
Examples in the version that is still edited: definitions have one, and so have the objects of
interfaces.
-/

namespace SpecLint.Rule

open Schema

/-- Whether a definition of a schema lacks an example. -/
def lacksModelExample (node : Node) : Bool := !node.hasExample

/-- Whether a schema of an interface lacks an example: objects need one, unless they are composed,
listed or declared elsewhere. -/
def lacksObjectExample (node : Node) : Bool :=
  !node.hasExample && node.declaredType?.any (·.isOnly "object") &&
    !node.isIndirect && !node.hasEnum

/-- The names of the definitions whose nodes satisfy a condition. -/
def namesWhere (condition : Node → Bool) (definitions : Members) : List String :=
  (definitions.filter fun (_, value) => (Node.ofJson? value).any condition).map Prod.fst

/-- The definitions without an example in the schema of a family. -/
def unexampledModels (version : VersionTag) (family : Family) (artifacts : FamilyArtifacts) :
    List Finding :=
  match artifacts.jsonSchema.document? with
  | some document =>
    (namesWhere lacksModelExample document.definitions).map fun name =>
      .error .modelExample ("Model " ++ inQuotes name ++ " is missing an example")
        { Context.ofArtifact version family .jsonSchema with model := some name }
  | none => []

def modelExample : Rule where
  id := .modelExample
  check snapshot config := snapshot.inUnreleased config fun entry =>
    entry.inFamilies (unexampledModels entry.version)

/-- The objects without an example in the interface of a family. -/
def unexampledObjects (version : VersionTag) (family : Family) (artifacts : FamilyArtifacts) :
    List Finding :=
  match artifacts.openApi.document? with
  | some document =>
    (namesWhere lacksObjectExample document.schemas).map fun name =>
      .error .openApiExample ("OpenAPI schema " ++ inQuotes name ++ " is missing an example")
        { Context.ofArtifact version family .openApi with schema := some name }
  | none => []

/-- The objects of interfaces have an example. -/
def openApiExample : Rule where
  id := .openApiExample
  check snapshot config := snapshot.inUnreleased config fun entry =>
    entry.inFamilies (unexampledObjects entry.version)

end SpecLint.Rule
