import LintHub.Environment.Provision
import LintHub.Grouping
import LintHub.Linter

/-!
# Linting files

Files are grouped by linter, the environment is made ready if there is anything to do,
and the linters run one after another. The caller is told before each of them and at
the end; the first failure ends the call, and the runs so far are lost.
-/

namespace LintHub

/-- Why a call ended without runs. -/
inductive LintError where
  /-- The environment could not be made ready. -/
  | provision (cause : ProvisionError)
  /-- A linter could not be run. -/
  | runner (linter : Kind) (cause : LaunchError)
  deriving DecidableEq, Repr

namespace LintError

/-- The text of a failure. -/
def message : LintError → String
  | .provision _ => "failed to provision the linter environment"
  | .runner linter _ => "failed to run " ++ linter.displayName

/-- The texts of the failures behind a failure. -/
def causes : LintError → List String
  | .provision cause => cause.message :: cause.causes
  | .runner _ cause => cause.message :: cause.causes

/-- The code under which a failure is documented. -/
def code : LintError → String
  | .provision _ => "weblint::provision"
  | .runner .. => "weblint::runner"

/-- What may help. -/
def help : LintError → String
  | .provision _ =>
    "run `weblint setup --force` to rebuild the environment, or check `bundle_dir`"
  | .runner .. => "the environment may be incomplete; run `weblint setup --force`"

end LintError

/-- The linters with their environment. -/
structure Checker where
  linters : List Linter
  provisioner : Provisioner
  /-- A directory searched for programs behind all others. -/
  extraPath : Option Path
  /-- The user's home directory. -/
  home : Option Path

namespace Checker

/-- The linters of a configuration, in running order. -/
def lintersOf (c : Config) : List Linter := Kind.all.map fun k => ⟨k, c.isEnabled k⟩

/-- The linters of a configuration with an environment of their own. -/
def withProvisioner (h : Host) (c : Config) (v : Provisioner) : Checker where
  linters := lintersOf c
  provisioner := v
  extraPath := c.environment.extraPath
  home := h.home

/-- The environment that a configuration asks for. -/
def provisionerOf (h : Host) (c : Config) : Provisioner where
  layout := Layout.ofSettings h c.environment
  bundle := Bundle.ofSettings h c.environment
  stamp := h.clock

/-- The linters and the environment of a configuration. -/
def ofConfig (h : Host) (c : Config) : Checker := withProvisioner h c (provisionerOf h c)

/-- The linter of a kind; one that is not there counts as switched off. -/
def linter (k : Checker) (kind : Kind) : Linter :=
  (k.linters.find? fun l => l.kind == kind).getD ⟨kind, false⟩

/-- What linters are run with. -/
def context (k : Checker) : LintContext := ⟨k.provisioner.layout, k.extraPath, k.home⟩

/-- Runs the linters of the remaining batches, of `total` in all. -/
def runBatches (k : Checker) (run : Runner σ) (total : Nat) :
    Nat → List Batch → Action σ LintError (List LintRun)
  | _, [] => return []
  | completed, b :: bs => do
    Action.emit (.progress total completed b.kind b.files.length)
    let r ← Action.mapError (.runner b.kind) ((k.linter b.kind).run k.context run b.files)
    let rs ← runBatches k run total (completed + 1) bs
    return r :: rs

/-- Lints files: one run for each linter that has files. -/
def lint (k : Checker) (run : Runner σ) (files : List Path) :
    Action σ LintError (List LintRun) := do
  let batches := groupFiles files
  if batches.isEmpty then return []
  let _ ← Action.mapError .provision (k.provisioner.ensureReady run)
  let runs ← k.runBatches run batches.length 0 batches
  Action.emit (.done batches.length)
  return runs

end Checker
end LintHub
