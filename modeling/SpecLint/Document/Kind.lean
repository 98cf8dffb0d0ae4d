import SpecLint.Document.Basic

/-!
The kinds of documents. A JSON Schema document declares its dialect and may have an identifier, an
OpenAPI document has keys that have to stand at its root, and both have a table of definitions; a set
of examples has payloads by name.
-/

namespace SpecLint

/-! ### JSON Schema documents -/

/-- A JSON Schema document. -/
structure JsonSchemaDocument where
  root : Root

namespace JsonSchemaDocument

def parse (readers : Readers) (text : String) : Except DocumentError JsonSchemaDocument :=
  (Root.ofJsonText readers text).map .mk

def ofJson (value : Json) : Except DocumentError JsonSchemaDocument :=
  (Root.ofJson value).map .mk

def declaresDialect (document : JsonSchemaDocument) : Bool := document.root.declares "$schema"

/-- The declared dialect, if it is a text. -/
def dialect? (document : JsonSchemaDocument) : Option String :=
  (document.root.get? "$schema").bind Json.text?

/-- The identifier, if it is a text that is not empty. -/
def id? (document : JsonSchemaDocument) : Option String :=
  ((document.root.get? "$id").bind Json.text?).filter (· != "")

/-- The definitions, in order of names. -/
def definitions (document : JsonSchemaDocument) : Members :=
  tableEntries (document.root.get? "$defs")

theorem canonical_definitions (document : JsonSchemaDocument) :
    (Json.object document.definitions).Canonical :=
  canonical_tableEntries fun _ h => Root.canonical_of_get? h

def definition? (document : JsonSchemaDocument) (name : String) : Option Json :=
  document.definitions.get? name

/-- Whether there is a definition of a name. -/
def hasDefinition (document : JsonSchemaDocument) (name : String) : Bool :=
  (document.definition? name).isSome

end JsonSchemaDocument

/-! ### OpenAPI documents -/

/-- An OpenAPI document. -/
structure OpenApiDocument where
  root : Root

namespace OpenApiDocument

/-- The keys that every document declares. -/
def requiredKeys : List String := ["openapi", "info", "paths"]

def parse (readers : Readers) (text : String) : Except DocumentError OpenApiDocument :=
  (Root.ofYamlText readers text).map .mk

/-- The required keys that are not declared, in order. -/
def missingKeys (document : OpenApiDocument) : List String :=
  requiredKeys.filter fun key => !document.root.declares key

/-- The schemas, in order of names. -/
def schemas (document : OpenApiDocument) : Members :=
  tableEntries ((document.root.get? "components").bind (·.get? "schemas"))

theorem canonical_schemas (document : OpenApiDocument) :
    (Json.object document.schemas).Canonical := by
  refine canonical_tableEntries fun value h => ?_
  obtain ⟨components, hcomponents, hvalue⟩ := Option.bind_eq_some_iff.1 h
  exact Json.canonical_of_get? (Root.canonical_of_get? hcomponents) hvalue

def schema? (document : OpenApiDocument) (name : String) : Option Json :=
  document.schemas.get? name

end OpenApiDocument

/-! ### Sets of examples -/

/-- A set of examples. -/
structure ExampleSet where
  root : Root

namespace ExampleSet

def parse (readers : Readers) (text : String) : Except DocumentError ExampleSet :=
  (Root.ofJsonText readers text).map .mk

/-- The examples, in order of names. -/
def entries (examples : ExampleSet) : Members := examples.root.members

def get? (examples : ExampleSet) (name : String) : Option Json := examples.root.get? name

def size (examples : ExampleSet) : Nat := examples.entries.length

end ExampleSet

end SpecLint
