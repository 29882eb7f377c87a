import LintHub.Environment.Bundle
import LintHub.Environment.Layout
import LintHub.Launch.Runner

/-!
# Setting up an environment

Setup is a sequence of steps: the directory is cleared and made anew, the payloads are
put into it, the script runs there, and the marker is written last. The first step that
fails ends it, so that a marker means that all of them succeeded.
-/

namespace LintHub

/-- Why an environment could not be set up. -/
inductive ProvisionError where
  /-- A file or directory could not be changed. -/
  | file (path : Path) (cause : FileError)
  /-- A payload is not where it should be. -/
  | missingPayload (name : String) (path : Path)
  /-- The script did not run. -/
  | notRun (cause : LaunchError)
  /-- The script reported failure. -/
  | failed (status : Option Int) (stderr : String)
  deriving DecidableEq, Repr

namespace ProvisionError

/-- An exit code as it is shown. -/
def statusText : Option Int → String
  | none => "None"
  | some n => "Some(" ++ toString n ++ ")"

/-- The text of a failure. -/
def message : ProvisionError → String
  | .file path cause => "IO error at " ++ path.text ++ ": " ++ cause.message
  | .missingPayload name path => "bundled payload " ++ name ++ " not found at " ++ path.text
  | .notRun cause => "setup script could not be started: " ++ cause.message
  | .failed status stderr =>
    "setup script failed with status " ++ statusText status ++ ": " ++ stderr

/-- The texts of the failures behind a failure. -/
def causes : ProvisionError → List String
  | .file _ cause => [cause.message]
  | .missingPayload .. => []
  | .notRun cause => cause.message :: cause.causes
  | .failed .. => []

end ProvisionError

/-- An environment together with what it is set up from. -/
structure Provisioner where
  layout : Layout
  bundle : Bundle
  /-- What the marker will say. -/
  stamp : String
  deriving DecidableEq, Repr

/-- One step of setup. -/
inductive SetupStep where
  /-- Removes the directory, if it is there. -/
  | clear
  /-- Makes the directory. -/
  | create
  /-- Puts a payload in place. -/
  | extract (p : Payload)
  /-- Runs the script. -/
  | script
  /-- Writes the marker. -/
  | mark
  deriving DecidableEq, Repr

/-- How a request for a ready environment was met. -/
inductive Readiness where
  /-- The environment was valid already. -/
  | already
  /-- It was set up on this request. -/
  | provisioned
  deriving DecidableEq, Repr

/-- The steps of setup, in order. -/
def Bundle.setupSteps (b : Bundle) : List SetupStep :=
  [.clear, .create] ++ b.payloads.map .extract ++ [.script, .mark]

/-- Puts a payload into a directory. Given contents become a program file. -/
def Payload.extractTo (p : Payload) (dir : Path) : Action σ ProvisionError Unit := do
  let target := dir.joinText p.name
  match p.source with
  | .bytes content =>
    Action.change (.file target) fun t => t.write target content
    Action.change (.file target) fun t => t.setMode target FileTree.programMode
  | .file source =>
    if (← Action.tree).isFile source then
      Action.change (.file target) fun t => t.copy source target
    else throw (.missingPayload p.name source)
  Action.log .debug ("Extracted " ++ target.text)

namespace Provisioner

/-- Takes one step of setup. -/
def step (v : Provisioner) (run : Runner σ) : SetupStep → Action σ ProvisionError Unit
  | .clear => do
    if (← Action.tree).exists? v.layout.execDir then
      Action.change (.file v.layout.execDir) fun t => t.removeAll v.layout.execDir
  | .create => Action.change (.file v.layout.execDir) fun t => t.makeDirectories v.layout.execDir
  | .extract p => p.extractTo v.layout.execDir
  | .script => do
    let output ← Action.launch run .notRun (v.bundle.setupInvocation v.layout.execDir)
    if !output.isSuccess then throw (.failed output.status output.stderr)
  | .mark =>
    Action.change (.file v.layout.marker) fun t =>
      t.write v.layout.marker (Text.encode v.stamp.toList)

/-- Says that setup begins. -/
def announce (v : Provisioner) : Action σ ProvisionError Unit := do
  Action.log .info ("Provisioning linter environment in " ++ v.layout.execDir.text)
  Action.emit .installing

/-- Sets up the environment, whatever is there. -/
def reprovision (v : Provisioner) (run : Runner σ) : Action σ ProvisionError Unit := do
  v.announce
  v.bundle.setupSteps.forM (v.step run)
  Action.emit .installed

/-- Sets up the environment unless it is valid. -/
def ensureReady (v : Provisioner) (run : Runner σ) : Action σ ProvisionError Readiness := do
  if v.layout.isValid (← Action.tree) then return .already
  v.reprovision run
  return .provisioned

end Provisioner
end LintHub
