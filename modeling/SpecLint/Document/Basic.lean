import SpecLint.Json.Canonical
import SpecLint.Yaml.ToJson

/-!
Documents: artifacts that were read, whose root is an object in canonical form, and why an artifact
cannot be read. Texts are read by whatever readers of JSON and YAML there are (`Readers`).
-/

namespace SpecLint

/-- What reads JSON texts and YAML texts. A reader yields a value, or says in its own words why there
is none. -/
structure Readers where
  json : String → Except String Json
  yaml : String → Except String Yaml.Value

/-- Why an artifact is not a document. -/
inductive DocumentError where
  | json (message : String)
  | yaml (message : String)
  | conversion (message : String)
  | notAnObject (found : String)
  | unreadable (path reason : String)
deriving DecidableEq, Repr

def DocumentError.message : DocumentError → String
  | .json message => message
  | .yaml message => message
  | .conversion message => "YAML-to-JSON conversion failed: " ++ message
  | .notAnObject found => "expected an object at the document root, found " ++ found
  | .unreadable path reason => "cannot read " ++ path ++ ": " ++ reason

/-- An object at the root of an artifact. -/
structure Root where
  members : Members
  canonical : (Json.object members).Canonical

namespace Root

def value (root : Root) : Json := .object root.members

/-- The value of a key of the root. -/
def get? (root : Root) (key : String) : Option Json := root.members.get? key

theorem canonical_of_get? {root : Root} {key : String} {value : Json}
    (h : root.get? key = some value) : value.Canonical :=
  Json.canonical_of_mem root.canonical (Members.mem_of_get? h)

/-- The name of the kind of a value. -/
def kindName : Json → String
  | .null => "null"
  | .boolean _ => "boolean"
  | .number _ => "number"
  | .string _ => "string"
  | .array _ => "array"
  | .object _ => "object"

/-- The root that a value is. -/
def ofJson (value : Json) : Except DocumentError Root :=
  match h : value.canonicalize with
  | .object members => .ok ⟨members, h ▸ Json.canonical_canonicalize value⟩
  | other => .error (.notAnObject (kindName other))

/-- The root of a JSON text. -/
def ofJsonText (readers : Readers) (text : String) : Except DocumentError Root :=
  match readers.json text with
  | .error message => .error (.json message)
  | .ok value => ofJson value

/-- The root of a YAML text. -/
def ofYamlText (readers : Readers) (text : String) : Except DocumentError Root :=
  match readers.yaml text with
  | .error message => .error (.yaml message)
  | .ok value =>
    match value.toJson with
    | .error error => .error (.conversion error.message)
    | .ok value => ofJson value

/-- Whether a key has a value that says something: null, false, zero and the empty text do not. -/
def declares (root : Root) (key : String) : Bool :=
  match root.get? key with
  | none | some .null | some (.boolean false) => false
  | some (.string text) => text != ""
  | some (.number (.int value)) => value != 0
  | some (.number (.float value)) => !value.isZero
  | some _ => true

end Root

/-- The entries of a table of named values; a value that is no object has none. -/
def tableEntries (table : Option Json) : Members :=
  (table.bind Json.members?).getD []

theorem canonical_tableEntries {table : Option Json} (h : ∀ value ∈ table, value.Canonical) :
    (Json.object (tableEntries table)).Canonical := by
  unfold tableEntries
  cases hmembers : table.bind Json.members? with
  | none => exact ⟨.nil, trivial⟩
  | some members =>
      obtain ⟨value, hvalue, hmembers⟩ := Option.bind_eq_some_iff.1 hmembers
      exact Json.canonical_of_members? (h value hvalue) hmembers

end SpecLint
