import PolySql.CommandLine.Run

/-!
# The program

Reads the arguments, the environment and the schema file, and prints what the command line comes
to.
-/

namespace PolySql.CommandLine

/-- The text of a file, if it can be read. -/
def readFile? (path : String) : IO (Option String) :=
  try return some (← IO.FS.readFile path) catch _ => return none

/-- The texts of the files that a command needs. -/
def filesFor (invocation : Except Stop Invocation) : IO (String → Option String) := do
  match invocation with
  | .ok ⟨some _, _, .ddl path _⟩ =>
    let text ← readFile? path
    return fun asked => if asked = path then text else none
  | _ => return fun _ => none

end PolySql.CommandLine

open PolySql.CommandLine in
/-- Runs the command line. -/
def main (args : List String) : IO UInt32 := do
  let environment ← IO.getEnv "OXIDE_DIALECT"
  let files ← filesFor (Invocation.ofArgs environment args)
  let outcome := execute files environment args
  (← IO.getStdout).putStr outcome.stdout
  let stderr ← IO.getStderr
  stderr.putStr outcome.stderr
  unless outcome.stderr.isEmpty || outcome.stderr.endsWith "\n" do stderr.putStr "\n"
  return outcome.code
