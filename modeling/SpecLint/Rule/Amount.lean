import SpecLint.Rule.Basic
import SpecLint.Schema.Node

/-!
Amounts are integers: a property with the name of an amount declares the type `integer` and no other,
unless its type is declared elsewhere.
-/

namespace SpecLint.Rule

open Schema

/-- What a finding adds to the name of a definition of a kind. -/
def origin : ArtifactKind → String
  | .openApi => " (OpenAPI)"
  | .jsonSchema | .examples => ""

/-- Whether a property that holds an amount has a wrong type. -/
def isWrongAmount (property : Node) : Bool :=
  !property.isIndirect && !property.declaredType?.any (·.isOnly "integer")

/-- The finding about an amount of a definition. -/
def amountFinding (version : VersionTag) (family : Family) (kind : ArtifactKind)
    (name field : String) (property : Node) : Finding :=
  let declared := property.declaredType?.map TypeDecl.text
  .error .amountType
    ("Amount field " ++ inQuotes field ++ " in " ++ name ++ origin kind ++ " has type " ++
      inQuotes (declared.getD "undefined") ++ " instead of \"integer\"")
    { Context.ofArtifact version family kind with
      schema := some name, field := some field, fieldType := declared }

/-- The wrong amounts of some definitions. -/
def wrongAmounts (config : Config) (version : VersionTag) (family : Family) (kind : ArtifactKind)
    (definitions : Members) : List Finding :=
  definitions.flatMap fun (name, value) =>
    match Node.ofJson? value with
    | none => []
    | some node =>
      (node.properties.filter fun (field, property) =>
        config.isAmountField field && isWrongAmount property).map fun (field, property) =>
          amountFinding version family kind name field property

/-- The wrong amounts in the schema of a family. -/
def schemaAmounts (config : Config) (version : VersionTag) (family : Family)
    (artifacts : FamilyArtifacts) : List Finding :=
  match artifacts.jsonSchema.document? with
  | some document => wrongAmounts config version family .jsonSchema document.definitions
  | none => []

/-- The wrong amounts in the interface of a family. -/
def interfaceAmounts (config : Config) (version : VersionTag) (family : Family)
    (artifacts : FamilyArtifacts) : List Finding :=
  match artifacts.openApi.document? with
  | some document => wrongAmounts config version family .openApi document.schemas
  | none => []

/-- Amounts are integers, in all schemas and then in all interfaces. -/
def amountType : Rule where
  id := .amountType
  check snapshot config :=
    (snapshot.inVersions fun entry => entry.inFamilies (schemaAmounts config entry.version)) ++
    (snapshot.inVersions fun entry => entry.inFamilies (interfaceAmounts config entry.version))

end SpecLint.Rule
