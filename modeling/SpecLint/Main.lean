import SpecLint.BuiltIn
import SpecLint.Cli.Run
import SpecLint.Files.Listing

/-!
The program. The files to lint come as one line of JSON on the standard input, and the title and the
body of a pull request may come from the environment.
-/

namespace SpecLint.Cli

/-- Prints a result and leaves its exit code. -/
def Result.print (result : Result) : IO UInt32 := do
  (← IO.getStdout).putStr result.stdout
  (← IO.getStderr).putStr result.stderr
  return UInt32.ofNat result.exitCode

end SpecLint.Cli

open SpecLint

def main (arguments : List String) : IO UInt32 := do
  let environment ← ["PR_TITLE", "PR_BODY"].filterMapM fun name => do
    return (← IO.getEnv name).map (name, ·)
  let description ← if Cli.readsFiles arguments then (← IO.getStdin).getLine else pure "null"
  match FileSystem.ofText? description with
  | none => Cli.noFiles.print
  | some files => (Cli.run .builtIn ⟨files, environment⟩ arguments).print
