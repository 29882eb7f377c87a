import LintHub.FileTree.Edit
import LintHub.Journal
import LintHub.Launch.Invocation

/-!
# Running programs

A runner starts a program and answers with its output or with the reason why there is
none; on the way the program may change files. A `Session` is what a sequence of such
runs works on: the files, the runner's own state, what was started, and a journal of
what came up on the way.
-/

namespace LintHub

/-- What a finished program leaves. -/
structure Output where
  stdout : String
  stderr : String
  /-- The exit code; none if a signal ended the program. -/
  status : Option Int
  deriving DecidableEq, Repr

/-- Whether a program reports success. -/
def Output.isSuccess (o : Output) : Bool := o.status == some 0

/-- Why there is no output. -/
inductive LaunchCause where
  | system (e : FileError)
  | missing
  | denied
  | brokenPipe
  | other
  /-- An argument holds a NUL character. -/
  | nulInArgument
  deriving DecidableEq, Repr

/-- The text of a cause. -/
def LaunchCause.message : LaunchCause → String
  | .system e => e.message
  | .missing => "entity not found"
  | .denied => "permission denied"
  | .brokenPipe => "broken pipe"
  | .other => "other error"
  | .nulInArgument => "nul byte found in provided data"

/-- How far a start came before it failed. -/
inductive LaunchStage where
  /-- The program did not start. -/
  | start
  /-- The program ran, and its output was lost. -/
  | collect
  deriving DecidableEq, Repr

/-- A start that failed. -/
structure LaunchError where
  stage : LaunchStage
  program : Path
  cause : LaunchCause
  deriving DecidableEq, Repr

namespace LaunchError

/-- The text of a failure. -/
def message (e : LaunchError) : String :=
  (match e.stage with
    | .start => "failed to start "
    | .collect => "failed to collect output of ") ++
  e.program.text ++ ": " ++ e.cause.message

/-- The texts of the failures behind a failure. -/
def causes (e : LaunchError) : List String := [e.cause.message]

end LaunchError

/-- Something that runs programs, with a state of its own. -/
abbrev Runner (σ : Type) := Invocation → σ → FileTree → Except LaunchError Output × σ × FileTree

/-- What a sequence of runs works on. -/
structure Session (σ : Type) where
  tree : FileTree
  /-- The state of the runner. -/
  runner : σ
  /-- What was started, in order. -/
  calls : List Invocation
  /-- What came up, in order. -/
  journal : List Remark

/-- What the caller was told, in order. -/
def Session.events (s : Session σ) : List Event := Remark.events s.journal

/-- Something done in a session, which may fail half-way. -/
abbrev Action (σ ε α : Type) := ExceptT ε (StateM (Session σ)) α

namespace Action

variable {σ ε α : Type}

/-- The same with another form of error. -/
def mapError {ε' : Type} (wrap : ε → ε') (act : Action σ ε α) : Action σ ε' α :=
  ExceptT.adapt wrap act

/-- The files as they are now. -/
def tree : Action σ ε FileTree := do
  return (← getThe (Session σ)).tree

/-- Adds an entry to the journal. -/
def note (r : Remark) : Action σ ε Unit :=
  modifyThe (Session σ) fun s => { s with journal := s.journal ++ [r] }

/-- Writes a record into the log. -/
def log (level : Level) (text : String) : Action σ ε Unit := note (.logged level text)

/-- Tells the caller something. -/
def emit (e : Event) : Action σ ε Unit := note (.told e)

/-- Changes files; `wrap` turns the reason of a failure into an error. -/
def change (wrap : FileError → ε) (act : FileTree → FileTree.Change α) : Action σ ε α := do
  let (r, t) := act (← tree)
  modifyThe (Session σ) fun s => { s with tree := t }
  match r with
  | .ok a => return a
  | .error e => throw (wrap e)

/-- Runs a program; `wrap` turns a failure into an error. -/
def launch (run : Runner σ) (wrap : LaunchError → ε) (i : Invocation) : Action σ ε Output := do
  log .debug ("Running " ++ i.commandLine ++ " in " ++ i.workingDir.text)
  let s ← getThe (Session σ)
  let (r, state, t) := run i s.runner s.tree
  set { s with tree := t, runner := state, calls := s.calls ++ [i] }
  match r with
  | .ok output => return output
  | .error e => throw (wrap e)

end Action
end LintHub
