import SpecLint.Conformance.Oracle
import SpecLint.Rule.Basic

/-!
Conformance of examples: an example that a route sends to a definition satisfies it. Examples without
a route, and definitions that are unknown or cannot be used, are passed over.
-/

namespace SpecLint.Rule

open Conformance

/-- The finding about an example that violates its definition. -/
def violatedExample (version : VersionTag) (family : Family) (definition name : String)
    (violations : List Violation) : Finding :=
  .error .exampleConformance
    ("Example " ++ inQuotes name ++ " does not validate against schema")
    { Context.ofArtifact version family .examples with
      schema := some definition, exampleName := some name, errors := violations }

/-- What is found in examples, one after another, with one oracle for all of them. -/
def violatedExamples {library : SchemaLibrary} (routes : RouteTable) (version : VersionTag)
    (family : Family) : Oracle library → Members → List Finding
  | _, [] => []
  | oracle, (name, payload) :: rest =>
    match routes.resolve? family name with
    | none => violatedExamples routes version family oracle rest
    | some definition =>
      let (answer, oracle) := oracle.check definition payload
      let more := violatedExamples routes version family oracle rest
      match answer with
      | .ok verdict =>
        if verdict.conforms then more
        else violatedExample version family definition name verdict.violations :: more
      | .error _ => more

/-- What is found in the examples of a family. -/
def familyExamples (library : SchemaLibrary) (config : Config) (version : VersionTag)
    (family : Family) (artifacts : FamilyArtifacts) : List Finding :=
  match artifacts.jsonSchema.document?, artifacts.examples with
  | some document, .parsed examples =>
    let oracle := Oracle.ofDocument library document (documentBase document version family)
    violatedExamples config.routes version family oracle examples.entries
  | some _, .malformed error =>
    [.error .exampleConformance
      ("Invalid examples file for " ++ coordinates version family ++ ": " ++ error.message)
      (Context.ofArtifact version family .examples)]
  | some _, .missing | none, _ => []

def exampleConformance (library : SchemaLibrary) : Rule where
  id := .exampleConformance
  check snapshot config := snapshot.inVersions fun entry =>
    entry.inFamilies (familyExamples library config entry.version)

end SpecLint.Rule
