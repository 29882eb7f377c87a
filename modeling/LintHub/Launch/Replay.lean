import LintHub.FileTree.Listing
import LintHub.Launch.Runner

/-!
# Replaying prepared answers

A runner that starts nothing: it answers from prepared lists, one for setup and one per
tool. A start without files is a setup; any other is answered for the file name of its
program. The last answer of a list is given again and again, and a list that is missing
answers with empty output.
-/

namespace LintHub

/-- A prepared answer. -/
inductive Reply where
  /-- The start fails. -/
  | fail (stage : LaunchStage) (cause : LaunchCause)
  /-- The program makes these entries and this many packages in its working directory,
  and leaves this output. -/
  | finish (entries : List (String × Entry)) (packages : Nat) (output : Output)
  deriving Repr

/-- The answer of a list that is missing. -/
def Reply.silent : Reply := .finish [] 0 ⟨"", "", some 0⟩

/-- Prepared answers by name, with how many of each list were given. -/
structure Replay where
  replies : List (String × List Reply)
  given : List (String × Nat)
  deriving Repr

namespace Replay

/-- The name under which setup is answered. -/
def setupName : String := "setup"

/-- The name under which a start is answered. -/
def nameOf (i : Invocation) : String :=
  if i.files.isEmpty then setupName else i.program.fileName?.getD ""

/-- The next answer of a list. -/
def next (r : Replay) (name : String) : Reply × Replay :=
  let count := (r.given.lookup name).getD 0
  let replies := (r.replies.lookup name).getD []
  let reply := match replies[count]? with
    | some reply => reply
    | none => replies.getLast?.getD .silent
  (reply, { r with given := (name, count + 1) :: r.given.filter fun g => g.1 != name })

/-- Makes a number of package directories. -/
def addPackages (t : FileTree) (dir : Path) (count : Nat) : FileTree :=
  (List.range count).foldl
    (fun t n => t.place ((dir.joinText "node_modules").joinText ("p" ++ toString n)) .directory) t

/-- Answers a start. -/
def run : Runner Replay := fun i r t =>
  match r.next (nameOf i) with
  | (.fail stage cause, r) => (.error ⟨stage, i.program, cause⟩, r, t)
  | (.finish entries packages output, r) =>
    (.ok output, r, addPackages (t.placeAll i.workingDir entries) i.workingDir packages)

end Replay
end LintHub
