import LintHub.Environment.Layout
import LintHub.Launch.Runner
import LintHub.Output
import LintHub.Run
import LintHub.WorkingDir

/-!
# Running one linter

A linter is started once for a whole batch of files, if it is enabled and all of the
files are there. What it writes to standard output is read as diagnostics; what it
writes only to standard error becomes one error on the first file.
-/

namespace LintHub

/-- A linter that may be switched off. -/
structure Linter where
  kind : Kind
  enabled : Bool
  deriving DecidableEq, Repr

/-- What linters are run with. -/
structure LintContext where
  layout : Layout
  /-- A directory searched for programs behind all others. -/
  extraPath : Option Path
  /-- The user's home directory. -/
  home : Option Path
  deriving Repr

namespace Linter

/-- Where the search for the directory of a linter begins. -/
def searchStart (first : Path) : Path := first.parent?.getD first

/-- The start of a linter on files of which this is the first. -/
def invocation (l : Linter) (c : LintContext) (t : FileTree) (first : Path) (files : List Path) :
    Invocation :=
  let dir := findWorkingDir t (searchStart first) l.kind.marker c.home
  let i := Invocation.ofProgram (c.layout.toolPath l.kind.tool) dir
  ((i.addArguments l.kind.arguments).addFiles files).withExtraPath c.extraPath

/-- The diagnostics that an output stands for. -/
def diagnose (kind : Kind) (first : Path) (files : List Path) (o : Output) : List Diagnostic :=
  if !o.stdout.isEmpty then kind.read o.stdout files
  else if !o.stderr.isEmpty then [Diagnostic.ofFile kind first .error o.stderr]
  else []

/-- What the log says about where a linter is started. -/
def placeRemark? (kind : Kind) (t : FileTree) (first : Path) : Option Remark :=
  (markedDir? t (searchStart first) kind.marker).map fun dir =>
    .logged .debug ("Found " ++ kind.marker ++ " in " ++ dir.text)

/-- What the log says about an output: that there is nothing but complaints. -/
def remark? (kind : Kind) (o : Output) : Option Remark :=
  if o.stdout.isEmpty && !o.stderr.isEmpty then
    some (.logged .warn (kind.displayName ++ " wrote only to stderr: " ++ o.stderr))
  else none

/-- Runs a linter on a batch of files. -/
def run (l : Linter) (c : LintContext) (runner : Runner σ) (files : List Path) :
    Action σ LaunchError LintRun := do
  if !l.enabled then return ⟨l.kind, files, []⟩
  let t ← Action.tree
  match files.find? (fun f => !t.isFile f), files with
  | some missing, _ =>
    Action.log .debug (l.kind.displayName ++ ": " ++ missing.text ++ " does not exist")
    return ⟨l.kind, files, [Diagnostic.ofFile l.kind missing .error Diagnostic.missingFileMessage]⟩
  | none, [] => return ⟨l.kind, files, []⟩
  | none, first :: _ =>
    (placeRemark? l.kind t first).forM Action.note
    let output ← Action.launch runner id (l.invocation c t first files)
    (remark? l.kind output).forM Action.note
    return ⟨l.kind, files, diagnose l.kind first files output⟩

end Linter
end LintHub
