import LintHub.Command.Notice
import LintHub.Lint
import LintHub.Report.Failure

/-!
# Installing the environment

The environment of a configuration is installed unless it is complete, or rebuilt in
any case if that is asked for.
-/

namespace LintHub.Command.Setup

/-- How the user is told of an event. -/
def tell (l : Layout) : Event → Option String
  | .installing => some ("Installing linters into " ++ l.execDir.text ++ "...\n")
  | _ => none

/-- What is printed at the end. -/
def closing (l : Layout) (done : String) : String :=
  "Linter environment " ++ done ++ " in " ++ l.execDir.text ++ "\n"

/-- Makes the environment ready, and says in one word what was done. -/
def act (v : Provisioner) (runner : Runner σ) (force : Bool) : Action σ ProvisionError String := do
  if force then
    v.reprovision runner
    return "rebuilt"
  else
    match ← v.ensureReady runner with
    | .already => return "already installed"
    | .provisioned => return "installed"

/-- Installs the environment of a configuration. -/
def run (h : Host) (runner : Runner σ) (force : Bool) (c : Config) (s : Session σ) :
    Outcome × Session σ :=
  let v := Checker.provisionerOf h c
  let (answer, s) := act v runner force { s with journal := [] }
  let stderr := Notice.ofJournal (tell v.layout) s.journal
  match answer with
  | .ok done => (⟨0, closing v.layout done, stderr⟩, s)
  | .error e => (.failed stderr ⟨"Setup failed", e.message :: e.causes⟩, s)

end LintHub.Command.Setup
