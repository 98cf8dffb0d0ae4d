/-!
The rules by name, in the order in which they run, and the two severities.
-/

namespace SpecLint

/-- Names the rule that produced a finding. -/
inductive RuleId where
  | jsonSchemaSyntax
  | openApiSyntax
  | prohibitedSchema
  | amountType
  | fieldDescription
  | modelExample
  | openApiDescription
  | openApiExample
  | exampleConformance
  | requiredConsistency
deriving DecidableEq, Repr

namespace RuleId

def all : List RuleId :=
  [.jsonSchemaSyntax, .openApiSyntax, .prohibitedSchema, .amountType, .fieldDescription,
    .modelExample, .openApiDescription, .openApiExample, .exampleConformance, .requiredConsistency]

/-- The name of a rule on the command line and in texts. -/
def name : RuleId → String
  | .jsonSchemaSyntax => "json_schema_syntax"
  | .openApiSyntax => "openapi_syntax"
  | .prohibitedSchema => "prohibited_schema"
  | .amountType => "amount_type"
  | .fieldDescription => "field_description"
  | .modelExample => "model_example"
  | .openApiDescription => "openapi_description"
  | .openApiExample => "openapi_example"
  | .exampleConformance => "example_conformance"
  | .requiredConsistency => "required_consistency"

/-- The name of a rule in the JSON form of a finding. -/
def jsonName : RuleId → String
  | .openApiSyntax => "open_api_syntax"
  | .openApiDescription => "open_api_description"
  | .openApiExample => "open_api_example"
  | other => other.name

/-- The place of a rule in the order. -/
def index (rule : RuleId) : Nat := all.idxOf rule

end RuleId

/-- How grave a finding is. -/
inductive Severity where
  | warning
  | error
deriving DecidableEq, Repr

namespace Severity

def all : List Severity := [.warning, .error]

def label : Severity → String
  | .warning => "WARNING"
  | .error => "ERROR"

/-- The name of a severity in the JSON form of a finding. -/
def jsonName : Severity → String
  | .warning => "warning"
  | .error => "error"

end Severity

end SpecLint
