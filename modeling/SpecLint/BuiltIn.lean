import SpecLint.Json.Reader
import SpecLint.Linter
import SpecLint.Validation.Validator
import SpecLint.Yaml.Reader

/-!
The libraries that the program is built with: readers of JSON and YAML, and validators that know the
keywords and formats which schemas of the corpus use. Nothing that is said of runs depends on them.
-/

namespace SpecLint

def Readers.builtIn : Readers where
  json text := (Json.parse text).mapError Json.SyntaxError.message
  yaml text := (Yaml.parse text).mapError Yaml.Fault.message

def SchemaLibrary.builtIn : SchemaLibrary where
  Validator := Validation.Validator
  build draft retrieve schema :=
    (Validation.Validator.compile draft retrieve schema).mapError Validation.SchemaFault.message
  violations := Validation.Validator.violations

theorem SchemaLibrary.build_builtIn (draft : Draft) (retrieve : String → Json) (schema : Json) :
    SchemaLibrary.builtIn.build draft retrieve schema =
      (Validation.Validator.compile draft retrieve schema).mapError
        Validation.SchemaFault.message :=
  rfl

def Libraries.builtIn : Libraries := ⟨.builtIn, .builtIn⟩

end SpecLint
