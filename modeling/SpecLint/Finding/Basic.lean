import SpecLint.Coordinate.Family
import SpecLint.Coordinate.Version
import SpecLint.Finding.Rule

/-!
Findings: what a rule has to say about the corpus, how grave it is, and where in the corpus it is.
-/

namespace SpecLint

/-- One disagreement between an example and its schema. -/
structure Violation where
  /-- Pointer to the value that is refused. -/
  instancePath : String
  /-- Pointer to the keyword that refuses it. -/
  schemaPath : String
  message : String
deriving DecidableEq, Repr

def Violation.text (v : Violation) : String :=
  (if v.instancePath = "" then "(root)" else v.instancePath) ++ ": " ++ v.message

/-- Where in the corpus a finding is, as far as the rule knows. -/
structure Context where
  version : Option VersionTag := none
  spec : Option Family := none
  artifact : Option ArtifactKind := none
  /-- The name of a definition. -/
  schema : Option String := none
  /-- The name of a definition, for rules about whole definitions. -/
  model : Option String := none
  /-- The name of a property, or the path of a field. -/
  field : Option String := none
  /-- The declared type of the field. -/
  fieldType : Option String := none
  exampleName : Option String := none
  reason : Option String := none
  errors : List Violation := []
deriving DecidableEq

namespace Context

def empty : Context := {}

def inFamily (version : VersionTag) (family : Family) : Context :=
  { version := some version, spec := some family }

def inVersion (version : VersionTag) : Context :=
  { version := some version }

def isEmpty (context : Context) : Bool := context == empty

end Context

/-- One error or warning. -/
structure Finding where
  rule : RuleId
  severity : Severity
  message : String
  context : Context
deriving DecidableEq

namespace Finding

def error (rule : RuleId) (message : String) (context : Context) : Finding :=
  ⟨rule, .error, message, context⟩

def warning (rule : RuleId) (message : String) (context : Context) : Finding :=
  ⟨rule, .warning, message, context⟩

/-- Whether the finding is an error. -/
def isError (finding : Finding) : Bool := finding.severity == .error

def text (finding : Finding) : String :=
  finding.severity.label ++ ": " ++ finding.message

end Finding

end SpecLint
