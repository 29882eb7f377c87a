import LintHub.Command
import LintHub.Launch.Spawn
import LintHub.Workspace

/-!
# The program

`weblint` with the arguments of the command line, on the workspace whose image stands
on standard input. It writes what the command writes and exits with its status; what
the command does to files it does to the workspace.
-/

open LintHub

/-- Everything that is left on a stream. -/
partial def readAll (input : IO.FS.Stream) (text : String) : IO String := do
  let line ← input.getLine
  if line.isEmpty then return text
  readAll input (text ++ line)

/-- Runs a command line on the workspace of an image. -/
def runOnImage (args : List String) (image : String) : Command.Outcome × String :=
  let v := (Json.parse? image).getD .null
  let w := Workspace.ofJson v
  let (outcome, _) := Command.run w.host (Spawn.run w.host) args ⟨w.tree, (), [], []⟩
  (outcome, (Workspace.text? v "time").getD "")

/-- The program. -/
def main (args : List String) : IO UInt32 := do
  let image ← readAll (← IO.getStdin) ""
  let (outcome, time) := runOnImage args image
  (← IO.getStdout).putStr outcome.stdout
  (← IO.getStderr).putStr (Command.Notice.printAll time outcome.stderr)
  return outcome.status.toUInt32
