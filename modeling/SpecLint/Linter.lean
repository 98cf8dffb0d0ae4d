import SpecLint.Report.Basic
import SpecLint.Rule.Amount
import SpecLint.Rule.Conformance
import SpecLint.Rule.Definition
import SpecLint.Rule.Description
import SpecLint.Rule.Example
import SpecLint.Rule.Syntax

/-!
The linter: rules run one after another over a snapshot, and their findings make up one report.
`lintCorpus` is the whole run, from the root of a corpus and the requested versions. Reading texts and
checking examples is left to libraries.
-/

namespace SpecLint

/-- The rules of a full run; examples are checked by a library. -/
def Rule.all (library : SchemaLibrary) : List Rule :=
  [Rule.jsonSchemaSyntax, Rule.openApiSyntax, Rule.prohibitedSchema, Rule.amountType,
    Rule.fieldDescription, Rule.modelExample, Rule.openApiDescription, Rule.openApiExample,
    Rule.exampleConformance library, Rule.requiredConsistency]

def Rule.ofId (library : SchemaLibrary) (id : RuleId) : Rule :=
  match id with
  | .jsonSchemaSyntax => Rule.jsonSchemaSyntax
  | .openApiSyntax => Rule.openApiSyntax
  | .prohibitedSchema => Rule.prohibitedSchema
  | .amountType => Rule.amountType
  | .fieldDescription => Rule.fieldDescription
  | .modelExample => Rule.modelExample
  | .openApiDescription => Rule.openApiDescription
  | .openApiExample => Rule.openApiExample
  | .exampleConformance => Rule.exampleConformance library
  | .requiredConsistency => Rule.requiredConsistency

/-- Some rules with a configuration. -/
structure Linter where
  config : Config
  rules : List Rule

namespace Linter

def standard (library : SchemaLibrary) (config : Config) : Linter := ⟨config, Rule.all library⟩

/-- The report of a run over a snapshot. -/
def run (linter : Linter) (snapshot : CorpusSnapshot) : Report :=
  linter.rules.foldl (fun report rule => report.extend (rule.check snapshot linter.config)) .empty

end Linter

/-- Why a run cannot start. -/
inductive RunError where
  | config (error : ConfigError)
  | corpusRoot (path : FilePath) (reason : String)

def RunError.message : RunError → String
  | .config error => "configuration error: " ++ error.message
  | .corpusRoot path reason => "corpus root " ++ path.text ++ " is not usable: " ++ reason

/-- What a run leaves to libraries: the reading of texts, and the checks of examples. -/
structure Libraries where
  readers : Readers
  schemas : SchemaLibrary

/-- The report about a corpus: all configured versions, or those that are requested. -/
def lintCorpus (libraries : Libraries) (corpus : Corpus) (config : Config)
    (requested : List VersionTag) : Except RunError Report :=
  match config.validate with
  | .error error => .error (.config error)
  | .ok () =>
    match config.selectVersions requested with
    | .error error => .error (.config error)
    | .ok versions =>
      if !corpus.files.isDirectory corpus.root then
        .error (.corpusRoot corpus.root "not a directory")
      else if !corpus.files.isDirectory (corpus.root.join "spec") then
        .error (.corpusRoot corpus.root "no spec/ directory")
      else
        .ok ((Linter.standard libraries.schemas config).run
          (corpus.snapshot libraries.readers versions))

end SpecLint
