import SpecLint.Conformance.Draft
import SpecLint.Conformance.Reference
import SpecLint.Finding.Basic

/-!
The oracle: checks of values against the definitions of one document. The checks themselves are the
matter of a library, of which nothing is known here (`SchemaLibrary`). `check` answers one question
from scratch; an `Oracle` remembers the validators that were made, and gives the same answers.
-/

namespace SpecLint

/-- A library that checks values against JSON Schemas, formats included that it knows. -/
structure SchemaLibrary where
  /-- What is made of a schema, to check values with. -/
  Validator : Type
  /-- Makes the validator of a schema in a draft, or says why there is none. What the schema refers
  to is looked up by its place. -/
  build : Draft → (retrieve : String → Json) → (schema : Json) → Except String Validator
  /-- Everything that is wrong with a value, in the order in which it is found. -/
  violations : Validator → Json → List Violation

namespace Conformance

/-- Why there is no verdict. -/
inductive CheckError where
  | unknownDefinition (name : String)
  | unusable (name reason : String)
deriving DecidableEq, Repr

def CheckError.message : CheckError → String
  | .unknownDefinition name => "definition \"" ++ name ++ "\" not found in $defs"
  | .unusable name reason => "cannot compile validator for \"" ++ name ++ "\": " ++ reason

/-- What a check finds: everything that is wrong with the value. -/
structure Verdict where
  violations : List Violation
deriving DecidableEq, Repr

def Verdict.conforms (verdict : Verdict) : Bool := verdict.violations.isEmpty

/-- The validator of a definition, made of the schema that refers to it. -/
def compile (library : SchemaLibrary) (served : Served) (draft : Draft) (name : String) :
    Except String library.Validator :=
  library.build draft served.retrieve (served.wrapper name)

/-- Checks a value against a definition. -/
def check (library : SchemaLibrary) (served : Served) (draft : Draft) (name : String)
    (value : Json) : Except CheckError Verdict :=
  if served.hasDefinition name then
    match compile library served draft name with
    | .ok validator => .ok ⟨library.violations validator value⟩
    | .error reason => .error (.unusable name reason)
  else .error (.unknownDefinition name)

/-- The definitions of a document, with the validators that were made so far. -/
structure Oracle (library : SchemaLibrary) where
  served : Served
  draft : Draft
  validators : List (String × library.Validator)

namespace Oracle

variable {library : SchemaLibrary}

/-- The oracle of a document at a base. -/
def ofDocument (library : SchemaLibrary) (document : JsonSchemaDocument) (base : String) :
    Oracle library :=
  ⟨.ofDocument document base, .ofDialect document.dialect?, []⟩

/-- Checks a value against a definition, with a validator at hand or with a new one. -/
def check (oracle : Oracle library) (name : String) (value : Json) :
    Except CheckError Verdict × Oracle library :=
  if oracle.served.hasDefinition name then
    match oracle.validators.lookup name with
    | some validator => (.ok ⟨library.violations validator value⟩, oracle)
    | none =>
      match compile library oracle.served oracle.draft name with
      | .ok validator =>
        (.ok ⟨library.violations validator value⟩,
          { oracle with validators := (name, validator) :: oracle.validators })
      | .error reason => (.error (.unusable name reason), oracle)
  else (.error (.unknownDefinition name), oracle)

def checkAll (oracle : Oracle library) : List (String × Json) → List (Except CheckError Verdict)
  | [] => []
  | (name, value) :: rest =>
    let (answer, oracle) := oracle.check name value
    answer :: oracle.checkAll rest

end Oracle

end Conformance

end SpecLint
