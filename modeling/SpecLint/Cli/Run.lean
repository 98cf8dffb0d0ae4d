import SpecLint.Cli.Arguments
import SpecLint.Config.Yaml
import SpecLint.Linter
import SpecLint.PullRequest.Check
import SpecLint.Report.Text

/-!
Runs of the program: from the arguments and the surroundings to an exit code and two texts. A run that
cannot be carried out has the exit code two and says why in one line.
-/

namespace SpecLint.Cli

/-- What a run can look at. -/
structure Surroundings where
  files : FileSystem
  environment : List (String × String)

/-- What a run leaves behind. -/
structure Result where
  exitCode : Nat
  stdout : String
  stderr : String
deriving DecidableEq, Repr

/-- The exit code of a run that cannot be carried out. -/
def operationalFailure : Nat := 2

/-- Why a command cannot be carried out. -/
inductive Failure where
  | config (path : FilePath) (error : ConfigError)
  | version (error : CoordinateError)
  | corpus (root : FilePath) (error : RunError)

/-- What lies behind an error of a configuration, if it has a cause of its own. -/
def causeOf : ConfigError → Option String
  | .unreadable _ reason => some reason
  | .malformed message => some message
  | .unsuitable _ error => some error.message
  | .noVersions | .unknownUnreleased _ | .unknownVersion _ => none

/-- The failure and its causes in one line. -/
def Failure.message : Failure → String
  | .config path error =>
    "failed to load lint config " ++ path.text ++ ": " ++ error.message ++
      ((causeOf error).map (": " ++ ·)).getD ""
  | .version error => "invalid --version: " ++ error.message
  | .corpus root error => "cannot lint corpus at " ++ root.text ++ ": " ++ error.message

def loadConfig (files : FileSystem) (path : FilePath) : Except ConfigError Config :=
  match files.readText path with
  | .ok text => Config.parse text
  | .error error => .error (.unreadable path.text error.message)

def configOf (files : FileSystem) (repoRoot : FilePath) (request : LintRequest) :
    Except Failure Config :=
  match request.config with
  | none => .ok .standard
  | some text =>
    let path := files.resolve ⟨text⟩ repoRoot
    (loadConfig files path).mapError (.config path)

/-- The report of a run of the linter. -/
def lintReport (libraries : Libraries) (files : FileSystem) (request : LintRequest) :
    Except Failure Report := do
  let here := files.workingDirectory
  let repoRoot := (files.repoRoot? here).getD here
  let root := (request.root.map FilePath.mk).getD repoRoot
  let config ← configOf files repoRoot request
  let versions ← (request.versions.mapM VersionTag.parse).mapError Failure.version
  (lintCorpus libraries ⟨files, root⟩ config versions).mapError (.corpus root)

def runLint (libraries : Libraries) (files : FileSystem) (request : LintRequest) : Result :=
  match lintReport libraries files request with
  | .error failure => ⟨operationalFailure, "", "error: " ++ failure.message ++ "\n"⟩
  | .ok report =>
    match request.format with
    | .text => ⟨report.exitCode, report.summary, report.blocks⟩
    | .json => ⟨report.exitCode, report.json, ""⟩

def runPrCheck (environment : List (String × String)) (request : PrCheckRequest) : Result :=
  let given (value : Option String) (variableName : String) : String :=
    (value.or (environment.lookup variableName)).getD ""
  let check :=
    PullRequest.check (given request.title "PR_TITLE") (given request.body "PR_BODY")
  match request.format with
  | .text => ⟨check.exitCode, check.praise, check.complaint⟩
  | .json => ⟨check.exitCode, check.json, ""⟩

def usage : String :=
  "Usage: acp [-v] [--log-format text|json] COMMAND\n\n" ++
    "  lint [--root DIR] [--config FILE] [--version TAG]... [--format text|json]\n" ++
    "  pr-check [--title TITLE] [--body BODY] [--format text|json]\n"

/-- The name and the version of the program. -/
def versionLine : String := "acp 0.1.0\n"

/-- Whether a run with these arguments looks at files. -/
def readsFiles (arguments : List String) : Bool :=
  match parse arguments with
  | .ok (.lint _) => true
  | _ => false

def run (libraries : Libraries) (surroundings : Surroundings) (arguments : List String) : Result :=
  match parse arguments with
  | .error .help => ⟨0, usage, ""⟩
  | .error .version => ⟨0, versionLine, ""⟩
  | .error (.usage error) => ⟨operationalFailure, "", "error: " ++ error.message ++ "\n\n" ++ usage⟩
  | .ok (.lint request) => runLint libraries surroundings.files request
  | .ok (.prCheck request) => runPrCheck surroundings.environment request

/-- The result if the description of the files cannot be read. -/
def noFiles : Result := ⟨operationalFailure, "", "error: cannot read the description of the files\n"⟩

end SpecLint.Cli
