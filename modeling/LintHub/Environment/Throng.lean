import LintHub.Environment.Provision

/-!
# Callers that may be interrupted anywhere

A look at an environment takes three steps: whether there is a marker, whether there is a
directory of packages, and how many of them there are. A setup script leaves its packages one
after another. A `Throng` is one moment of callers who share an environment and may be
interrupted between any two of these, and `Throng.move` what one caller does next.
-/

namespace LintHub

/-- The steps of a look. -/
inductive Look where
  | marker
  | modules
  | count
  deriving DecidableEq, Repr

/-- All of them, in order. -/
def Look.all : List Look := [.marker, .modules, .count]

/-- What one of them finds. -/
def Layout.sees (l : Layout) (t : FileTree) : Look → Bool
  | .marker => t.isFile l.marker
  | .modules => t.isDirectory l.modulesDir
  | .count => l.minModules ≤ l.moduleCount t

/-- What the files are like while a program runs, one change after another. What it leaves comes
last and is not among them. -/
def Stages (σ : Type) := Invocation → σ → FileTree → List FileTree

/-- How far the caller is that has the lock. -/
inductive Holder where
  /-- It has these steps of a look before it. -/
  | looking (looks : List Look)
  /-- It has these steps of setup before it. -/
  | settingUp (steps : List SetupStep)
  /-- The script runs: the files are still to become like this, then the script ends, and
  these steps of setup are left. -/
  | running (ahead : List FileTree) (result : Except ProvisionError Unit) (steps : List SetupStep)
  /-- It knows its answer. -/
  | leaving (r : Except ProvisionError Readiness)

/-- How far a caller is. -/
inductive Onlooker where
  /-- It has these steps of a look before it, and does not have the lock. -/
  | looking (looks : List Look)
  /-- It wants the lock. -/
  | waiting
  /-- It has the lock. -/
  | inside
  /-- It has its answer. -/
  | answered (r : Except ProvisionError Readiness)

/-- Callers at one moment. -/
structure Throng (σ : Type) where
  session : Session σ
  /-- Which caller has the lock, and how far it is. -/
  holder : Option (Nat × Holder)
  callers : List Onlooker

namespace Throng

variable {σ : Type}

/-- Callers that all arrive. -/
def gather (s : Session σ) (count : Nat) : Throng σ :=
  ⟨s, none, List.replicate count (.looking Look.all)⟩

/-- What the caller that has the lock does next, unless it is leaving. -/
def advance (v : Provisioner) (run : Runner σ) (stages : Stages σ) (s : Session σ) :
    Holder → Session σ × Holder
  | .looking [] => (s, .leaving (.ok .already))
  | .looking (look :: looks) =>
    if v.layout.sees s.tree look then (s, .looking looks)
    else
      let (_, s) := (v.announce : Action σ ProvisionError Unit) s
      (s, .settingUp v.bundle.setupSteps)
  | .settingUp [] =>
    let (_, s) := (Action.emit .installed : Action σ ProvisionError Unit) s
    (s, .leaving (.ok .provisioned))
  | .settingUp (.script :: steps) =>
    let (r, s') := v.step run .script s
    let shown := stages (v.bundle.setupInvocation v.layout.execDir) s.runner s.tree
    ({ s' with tree := s.tree }, .running (shown ++ [s'.tree]) r steps)
  | .settingUp (step :: steps) =>
    match v.step run step s with
    | (.ok (), s) => (s, .settingUp steps)
    | (.error e, s) => (s, .leaving (.error e))
  | .running (t :: ahead) r steps => ({ s with tree := t }, .running ahead r steps)
  | .running [] (.ok ()) steps => (s, .settingUp steps)
  | .running [] (.error e) _ => (s, .leaving (.error e))
  | .leaving r => (s, .leaving r)

/-- What a caller does next; nothing if it has its answer or has to wait. -/
def move (v : Provisioner) (run : Runner σ) (stages : Stages σ) (t : Throng σ) (i : Nat) :
    Option (Throng σ) :=
  match t.callers[i]? with
  | some (.looking []) => some { t with callers := t.callers.set i (.answered (.ok .already)) }
  | some (.looking (look :: looks)) =>
    let next := if v.layout.sees t.session.tree look then .looking looks else .waiting
    some { t with callers := t.callers.set i next }
  | some .waiting =>
    match t.holder with
    | none =>
      some { t with holder := some (i, .looking Look.all), callers := t.callers.set i .inside }
    | some _ => none
  | some .inside =>
    match t.holder with
    | some (j, .leaving r) =>
      if j = i then some { t with holder := none, callers := t.callers.set i (.answered r) }
      else none
    | some (j, h) =>
      if j = i then
        let (s, h) := advance v run stages t.session h
        some { t with session := s, holder := some (i, h) }
      else none
    | none => none
  | some (.answered _) => none
  | none => none

/-- Lets callers move in this order, as far as they can. -/
def follow (v : Provisioner) (run : Runner σ) (stages : Stages σ) (order : List Nat)
    (t : Throng σ) : Throng σ :=
  order.foldl (fun t i => (t.move v run stages i).getD t) t

end Throng
end LintHub
