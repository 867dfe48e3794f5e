/-
The program as it is called.

The arguments are those of the command.  The first line of the standard input writes
down, as a JSON table, the scene in which the command runs; what follows is the input of
the command itself.  So what is printed depends on nothing but what the program is
given.
-/
import SpokenIndex.Command.Program
import SpokenIndex.Document.Json

namespace SpokenIndex.Command

/-- Says why the program ends, as an error. -/
def sayFault (message : String) : IO Unit := do
  (← IO.getStderr).putStrLn message

/-- Prints what a command line came to and gives its exit code. -/
def report (outcome : Outcome) : IO UInt32 := do
  let output ← IO.getStdout
  let errors ← IO.getStderr
  outcome.printed.lines.forM output.putStrLn
  outcome.printed.errorLines.forM errors.putStrLn
  (outcome.escaped.map (·.message)).forM sayFault
  return outcome.code.toUInt32

/-- Runs a command line in the scene that the standard input writes down. -/
def start (args : List String) : IO UInt32 := do
  let input ← IO.getStdin
  let first ← input.getLine
  let rest ← input.lines
  match Document.Json.read? first with
  | some scene => report (run (.ofValue scene ("\n".intercalate rest.toList)) args)
  | none =>
    sayFault "The first line of the input is no JSON document."
    return 2

end SpokenIndex.Command

/-- Runs the program. -/
def main (args : List String) : IO UInt32 :=
  SpokenIndex.Command.start args
