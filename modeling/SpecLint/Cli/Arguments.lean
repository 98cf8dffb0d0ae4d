import SpecLint.Text.Search

/-!
The arguments of the command line. Options are read from left to right, and the first argument that
asks for help or the version, or that is wrong, decides.
-/

namespace SpecLint.Cli

/-- How a report is printed. -/
inductive OutputFormat where
  | text
  | json
deriving DecidableEq, Repr

/-- What is to be linted, and how. -/
structure LintRequest where
  root : Option String
  config : Option String
  versions : List String
  format : OutputFormat
deriving DecidableEq, Repr

/-- The pull request to check; what is not given comes from the environment. -/
structure PrCheckRequest where
  title : Option String
  body : Option String
  format : OutputFormat
deriving DecidableEq, Repr

/-- What the program is asked to do. -/
inductive Command where
  | lint (request : LintRequest)
  | prCheck (request : PrCheckRequest)
deriving DecidableEq, Repr

/-- What is wrong with arguments. -/
inductive UsageError where
  | noCommand
  | unknownCommand (name : String)
  | unexpected (argument : String)
  | missingValue (option : String)
  | repeated (option : String)
  | invalidValue (option value : String)
deriving DecidableEq, Repr

def UsageError.message : UsageError → String
  | .noCommand => "a command is required"
  | .unknownCommand name => "unknown command " ++ name
  | .unexpected argument => "unexpected argument " ++ argument
  | .missingValue option => "a value is required for --" ++ option
  | .repeated option => "--" ++ option ++ " cannot be given twice"
  | .invalidValue option value => "invalid value \"" ++ value ++ "\" for --" ++ option

/-- Why no command is run. -/
inductive Stop where
  | help
  | version
  | usage (error : UsageError)
deriving DecidableEq, Repr

/-- An option that takes a value. -/
structure OptionSpec where
  name : String
  /-- Whether it may be given several times. -/
  repeats : Bool := false
  /-- Whether a text may be its value. -/
  admits : String → Bool := fun _ => true

/-- Whether a text names a format. -/
def isFormat (text : String) : Bool := text == "text" || text == "json"

/-- The option for the form of log lines, which every command has. -/
def logFormat : OptionSpec := { name := "log-format", admits := isFormat }

/-- The options of the command `lint`. -/
def lintOptions : List OptionSpec :=
  [{ name := "root", admits := (· != "") }, { name := "config", admits := (· != "") },
    { name := "version", repeats := true }, { name := "format", admits := isFormat }, logFormat]

/-- The options of the command `pr-check`. -/
def prCheckOptions : List OptionSpec :=
  [{ name := "title" }, { name := "body" }, { name := "format", admits := isFormat }, logFormat]

/-- Options with their values, in order. -/
abbrev Given := List (String × String)

/-- The values of an option, in order. -/
def valuesOf (given : Given) (name : String) : List String :=
  (given.filter (·.1 == name)).map Prod.snd

def value? (given : Given) (name : String) : Option String := (valuesOf given name).head?

def formatOf (given : Given) : OutputFormat :=
  if value? given "format" = some "json" then .json else .text

/-- Adds an option to those that were given. -/
def add (option : OptionSpec) (value : String) (given : Given) : Except Stop Given :=
  if !option.admits value then .error (.usage (.invalidValue option.name value))
  else if !option.repeats && (value? given option.name).isSome then
    .error (.usage (.repeated option.name))
  else .ok (given ++ [(option.name, value)])

/-- Whether an argument is an option and no value. -/
def isOption (argument : String) : Bool :=
  Text.startsWith "-" argument && argument != "-"

/-- Reads a cluster of letters after a hyphen: any number of requests for more output, and at the top
level also a request for the version. -/
def readLetters (isTop : Bool) (argument : String) : List Char → Except Stop Unit
  | [] => .ok ()
  | 'v' :: rest => readLetters isTop argument rest
  | 'h' :: _ => .error .help
  | 'V' :: _ => if isTop then .error .version else .error (.usage (.unexpected argument))
  | _ :: _ => .error (.usage (.unexpected argument))

/-- Reads options up to the first argument that is none, which is left with those after it. -/
def readOptions (isTop : Bool) (options : List OptionSpec) :
    List String → Given → Except Stop (Given × List String)
  | [], given => .ok (given, [])
  | "--" :: rest, given =>
    match rest with
    | [] => .ok (given, [])
    | argument :: _ => .error (.usage (.unexpected argument))
  | argument :: rest, given =>
    match Text.afterStart ['-', '-'] argument.toList with
    | none =>
      if isOption argument then
        match readLetters isTop argument (argument.toList.drop 1) with
        | .error stop => .error stop
        | .ok () => readOptions isTop options rest given
      else .ok (given, argument :: rest)
    | some text =>
      let name := String.ofList (text.takeWhile (· != '='))
      let attached := (text.dropWhile (· != '=')).tail?.map String.ofList
      match options.find? (·.name == name), attached with
      | some option, some value =>
        match add option value given with
        | .error stop => .error stop
        | .ok given => readOptions isTop options rest given
      | some option, none =>
        match rest with
        | [] => .error (.usage (.missingValue name))
        | value :: rest =>
          if isOption value then .error (.usage (.missingValue name))
          else
            match add option value given with
            | .error stop => .error stop
            | .ok given => readOptions isTop options rest given
      | none, some _ => .error (.usage (.unexpected argument))
      | none, none =>
        if name = "verbose" then readOptions isTop options rest given
        else if name = "help" then .error .help
        else if name = "version" && isTop then .error .version
        else .error (.usage (.unexpected argument))

/-- Reads the options of a command; nothing else may follow it. -/
def readCommand (options : List OptionSpec) (arguments : List String) : Except Stop Given :=
  match readOptions false options arguments [] with
  | .error stop => .error stop
  | .ok (given, []) => .ok given
  | .ok (_, argument :: _) => .error (.usage (.unexpected argument))

/-- Reads the arguments of the program. -/
def parse (arguments : List String) : Except Stop Command :=
  match readOptions true [logFormat] arguments [] with
  | .error stop => .error stop
  | .ok (_, []) => .error (.usage .noCommand)
  | .ok (_, "lint" :: rest) =>
    (readCommand lintOptions rest).map fun given =>
      .lint ⟨value? given "root", value? given "config", valuesOf given "version", formatOf given⟩
  | .ok (_, "pr-check" :: rest) =>
    (readCommand prCheckOptions rest).map fun given =>
      .prCheck ⟨value? given "title", value? given "body", formatOf given⟩
  | .ok (_, "help" :: rest) =>
    match rest.find? fun name => !(["lint", "pr-check", "help"].contains name) with
    | some name => .error (.usage (.unknownCommand name))
    | none => .error .help
  | .ok (_, name :: _) => .error (.usage (.unknownCommand name))

end SpecLint.Cli
