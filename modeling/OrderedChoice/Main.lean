import OrderedChoice.Cli.Run

/-!
# The program

Reads the files that a command line names, carries the command out and prints its outcome.
-/

namespace OrderedChoice.Cli

/-- The text of a file, if it can be read. -/
def readText? (path : String) : IO (Option String) := do
  try
    return some (← IO.FS.readFile path)
  catch _ =>
    return none

/-- The paths that a command names. -/
def commandPaths : Command → List String
  | .parse grammar _ _ file => [grammar, file]
  | .check grammar => [grammar]

/-- The files that a command line names, with their texts. -/
def readFiles (arguments : List String) : IO (List (String × Option String)) :=
  match Command.ofArguments arguments with
  | .ok command => (commandPaths command).mapM fun path => return (path, ← readText? path)
  | .error _ => return []

/-- Carries out a command line and prints its outcome. -/
def runAndPrint (arguments : List String) : IO UInt32 := do
  let files ← readFiles arguments
  let outcome := run (fun path => (files.lookup path).join) arguments
  IO.print outcome.output
  if let some failure := outcome.failure then
    IO.eprintln failure.message
  return outcome.status.toUInt32

end OrderedChoice.Cli

/-- **Carries out the command line.** -/
def main (arguments : List String) : IO UInt32 := OrderedChoice.Cli.runAndPrint arguments
