import SpecLint.Decode.Json
import SpecLint.Finding.Basic

/-!
The JSON form of findings. Unset keys of a context and an empty list of errors are left out. The
members are written in a fixed order, in which the indented text shows them; `toJson` sorts them.
-/

namespace SpecLint

namespace Violation

/-- The members of a violation, in the order of writing. -/
def members (v : Violation) : Members :=
  [("instance_path", .string v.instancePath), ("schema_path", .string v.schemaPath),
    ("message", .string v.message)]

/-- The JSON form of a violation. -/
def toJson (v : Violation) : Json := .mkObject v.members

def ofJson (value : Json) : Decoded Violation := do
  let fields ← Fields.ofJson "struct Violation" ["instance_path", "schema_path", "message"] value
  let text (value : Json) : Decoded Unit := value.decodeText.map fun _ => ()
  fields.check [("instance_path", text), ("schema_path", text), ("message", text)]
  let instancePath ← fields.required "instance_path" Json.decodeText
  let schemaPath ← fields.required "schema_path" Json.decodeText
  let message ← fields.required "message" Json.decodeText
  fields.finish ⟨instancePath, schemaPath, message⟩

end Violation

namespace Context

/-- The members of a context, in the order of writing, given how violations are written. -/
def membersWith (violation : Violation → Json) (context : Context) : Members :=
  let text (key : String) (value : Option String) : Members :=
    (value.map fun v => (key, Json.string v)).toList
  text "version" (context.version.map VersionTag.text) ++
  text "spec" (context.spec.map Family.text) ++
  text "artifact" (context.artifact.map ArtifactKind.name) ++
  text "schema" context.schema ++
  text "model" context.model ++
  text "field" context.field ++
  text "type" context.fieldType ++
  text "example" context.exampleName ++
  text "reason" context.reason ++
  (if context.errors.isEmpty then [] else [("errors", .array (context.errors.map violation))])

/-- The members of a context, in the order of writing. -/
def members (context : Context) : Members :=
  context.membersWith fun v => .object v.members

/-- The JSON form of a context. -/
def toJson (context : Context) : Json :=
  .mkObject (context.membersWith Violation.toJson)

/-- The names of the keys of a context. -/
def keys : List String :=
  ["version", "spec", "artifact", "schema", "model", "field", "type", "example", "reason",
    "errors"]

/-- Reads the kind of an artifact. -/
def decodeKind (value : Json) : Decoded ArtifactKind :=
  value.decodeName ArtifactKind.all ArtifactKind.name

def ofJson (value : Json) : Decoded Context := do
  let fields ← Fields.ofJson "struct FindingContext" keys value
  let decodeVersion := Json.decodeOption Json.decodeVersion
  let decodeSpec := Json.decodeOption Json.decodeFamily
  let decodeArtifact := Json.decodeOption decodeKind
  let decodeText := Json.decodeOption Json.decodeText
  let decodeErrors := Json.decodeList Violation.ofJson
  let reader {α : Type} (decode : Json → Decoded α) (value : Json) : Decoded Unit :=
    (decode value).map fun _ => ()
  fields.check
    [("version", reader decodeVersion), ("spec", reader decodeSpec),
      ("artifact", reader decodeArtifact), ("schema", reader decodeText),
      ("model", reader decodeText), ("field", reader decodeText), ("type", reader decodeText),
      ("example", reader decodeText), ("reason", reader decodeText),
      ("errors", reader decodeErrors)]
  let version ← fields.optional "version" decodeVersion none
  let spec ← fields.optional "spec" decodeSpec none
  let artifact ← fields.optional "artifact" decodeArtifact none
  let schema ← fields.optional "schema" decodeText none
  let model ← fields.optional "model" decodeText none
  let field ← fields.optional "field" decodeText none
  let fieldType ← fields.optional "type" decodeText none
  let exampleName ← fields.optional "example" decodeText none
  let reason ← fields.optional "reason" decodeText none
  let errors ← fields.optional "errors" decodeErrors []
  fields.finish
    ⟨version, spec, artifact, schema, model, field, fieldType, exampleName, reason, errors⟩

end Context

namespace Finding

/-- The members of a finding, in the order of writing, given its context. -/
def membersWith (context : Json) (finding : Finding) : Members :=
  [("rule", .string finding.rule.jsonName), ("severity", .string finding.severity.jsonName),
    ("message", .string finding.message), ("context", context)]

/-- The finding as an object in the order of writing, at every depth. -/
def written (finding : Finding) : Json :=
  .object (finding.membersWith (.object finding.context.members))

/-- The JSON form of a finding. -/
def toJson (finding : Finding) : Json :=
  .mkObject (finding.membersWith finding.context.toJson)

/-- Reads the name of a rule. -/
def decodeRule (value : Json) : Decoded RuleId :=
  value.decodeName RuleId.all RuleId.jsonName

def decodeSeverity (value : Json) : Decoded Severity :=
  value.decodeName Severity.all Severity.jsonName

def ofJson (value : Json) : Decoded Finding := do
  let fields ← Fields.ofJson "struct Finding" ["rule", "severity", "message", "context"] value
  let reader {α : Type} (decode : Json → Decoded α) (value : Json) : Decoded Unit :=
    (decode value).map fun _ => ()
  fields.check
    [("rule", reader decodeRule), ("severity", reader decodeSeverity),
      ("message", reader Json.decodeText), ("context", reader Context.ofJson)]
  let rule ← fields.required "rule" decodeRule
  let severity ← fields.required "severity" decodeSeverity
  let message ← fields.required "message" Json.decodeText
  let context ← fields.required "context" Context.ofJson
  fields.finish ⟨rule, severity, message, context⟩

end Finding

end SpecLint
