import LintHub.Command.Notice
import LintHub.Config.Source
import LintHub.FileFilter
import LintHub.Report
import LintHub.Report.Failure
import LintHub.Walk

/-!
# Checking files

The paths given are collected into files, of which those are linted that pass the
filter, have an enabled linter, and whose linter is named if any are. The status says
what came of it: 2 if the linters could not be run, 1 if they found an error, else 0. A
report that cannot be printed is a failure like any other, with status 1.

* `Check.select` is the choice among the files collected.
* `Check.status` is the status.
-/

namespace LintHub.Command.Check

/-- The directory whose configuration holds for a path: the path itself if it is a
directory, else the one above. -/
def projectDir (t : FileTree) (p : Path) : Path :=
  if t.isDirectory p then p else p.parent?.getD p

/-- The names in a list separated by commas. -/
def namesIn (list : String) : List String :=
  ((Text.fields ',' list.toList).map fun cs => String.ofList (Text.trim cs)).filter (· != "")

/-- The linters named in a list. -/
def kindsIn (list : String) : List Kind := (namesIn list).filterMap Kind.ofName

/-- Switches off every linter that is not one of these. -/
def restrict (c : Config) (kinds : List Kind) : Config :=
  Kind.all.foldl (fun c k => if kinds.contains k then c else c.setEnabled k false) c

/-- The configuration with the linters that a list names, if there is one. -/
def configured (c : Config) (list : Option String) : Config :=
  match list with
  | some list => restrict c (kindsIn list)
  | none => c

/-- What the log says of names that no linter has. -/
def unknownNames (list : Option String) : List Notice :=
  (namesIn (list.getD "")).filterMap fun name =>
    if (Kind.ofName name).isNone then some (.logged .warn ("Unknown linter: " ++ name)) else none

/-- What the log says of the user's rules: their faults, before each walk. -/
def ruleNotices (h : Host) (t : FileTree) (paths : List Path) : List Notice :=
  match (Ignore.UserRules.read t h).messages with
  | [] => []
  | messages => (paths.filter t.isDirectory).map fun _ =>
    .logged .debug ("\n".intercalate messages)

/-- The files that paths stand for: those that a walk finds below a directory, and every
other path itself, whether anything is there or not. -/
def collect (t : FileTree) (walk : Path → Except WalkError (List Path)) :
    List Path → Except WalkError (List Path)
  | [] => .ok []
  | p :: ps => do
    let files ← if t.isDirectory p then walk p else .ok [p]
    return files ++ (← collect t walk ps)

/-- The filter of a configuration. -/
def filterOf (c : Config) : FileFilter :=
  FileFilter.ofPatterns c.ignorePatterns c.files.ignoreMinified

/-- The files that are worth linting with a configuration. -/
def select (c : Config) (files : List Path) : List Path :=
  files.filter fun f => (filterOf c).isLintable f && (Kind.ofPath f).any c.isEnabled

/-- What the log says of files that the filter leaves out. -/
def exclusionNotices (c : Config) (files : List Path) : List Notice :=
  files.filterMap fun f =>
    (((filterOf c).exclusion? f).bind fun e => e.record? f).map (.logged .debug)

/-- How the user is told of an event. -/
def tell : Event → Option String
  | .installing => some "Preparing linter environment...\n"
  | .installed => some "Linter environment ready\n"
  | .progress total completed linter files =>
    if 1 < total then
      some ("[" ++ toString (completed + 1) ++ "/" ++ toString total ++ "] " ++
        linter.displayName ++ " (" ++ toString files ++ " file(s))\n")
    else none
  | .done _ => none

/-- The status of a check. -/
def status : Except LintError (List LintRun) → Nat
  | .error _ => 2
  | .ok runs => if 0 < (Summary.ofRuns runs).errors then 1 else 0

/-- How a check ends whose linters have answered. -/
def outcome (h : Host) (format : Report.Format) (answer : Except LintError (List LintRun))
    (stderr : List Notice) : Outcome :=
  match answer with
  | .ok runs =>
    match Report.print h.isMalformed format runs with
    | .ok report => ⟨status answer, report, stderr⟩
    | .error message => .failed stderr ⟨message, []⟩
  | .error e => ⟨status answer, "", stderr ++ [.shown (Report.lintFailure e)]⟩

/-- Lints files with a configuration, and says how that ends. -/
def lint (h : Host) (run : Runner σ) (format : Report.Format) (c : Config) (files : List Path)
    (before : List Notice) (s : Session σ) : Outcome × Session σ :=
  let (answer, s) := (Checker.ofConfig h c).lint run files { s with journal := [] }
  let count : Notice := .logged .info ("Linting " ++ toString files.length ++ " file(s)")
  (outcome h format answer (before ++ count :: Notice.ofJournal tell s.journal), s)

/-- Checks paths with a configuration as it was loaded; `walk` finds the files below a
directory. -/
def runWith (walk : Path → Except WalkError (List Path)) (h : Host) (runner : Runner σ)
    (paths : List Path) (format : Report.Format) (linters : Option String) (c : Config)
    (s : Session σ) : Outcome × Session σ :=
  let c := configured c linters
  let paths := paths.map (Path.ofPlace s.tree.here).join
  let before := unknownNames linters ++ ruleNotices h s.tree paths
  match collect s.tree walk paths with
  | .error e => (.failed before ⟨e.message, e.causes⟩, s)
  | .ok files => lint h runner format c (select c files) (before ++ exclusionNotices c files) s

/-- Checks paths with a configuration as it was loaded. -/
def run (h : Host) (runner : Runner σ) (paths : List Path) (format : Report.Format)
    (linters : Option String) (c : Config) (s : Session σ) : Outcome × Session σ :=
  runWith (Walk.files h s.tree) h runner paths format linters c s

end LintHub.Command.Check
