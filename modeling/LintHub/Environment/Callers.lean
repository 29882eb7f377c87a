import LintHub.Environment.Provision

/-!
# Callers that share an environment

Several callers may ask for a ready environment at once. Each looks without the lock
first; one that finds the environment incomplete waits for the lock, looks again and
then takes the steps of setup one by one, while the others may look at any time. It
gives the lock back last. A `Crowd` is one moment of this, and `Crowd.move` what one
caller does next.
-/

namespace LintHub

/-- How far a caller is. -/
inductive Caller where
  /-- It has not looked yet. -/
  | arriving
  /-- It wants the lock. -/
  | waiting
  /-- It has the lock and has not looked again. -/
  | holding
  /-- It has the lock and these steps of setup before it. -/
  | settingUp (steps : List SetupStep)
  /-- It knows its answer and still has the lock. -/
  | leaving (r : Except ProvisionError Readiness)
  /-- It has its answer. -/
  | answered (r : Except ProvisionError Readiness)

/-- Whether a caller has its answer. -/
def Caller.isAnswered : Caller → Bool
  | .answered _ => true
  | _ => false

/-- Callers at one moment. -/
structure Crowd (σ : Type) where
  session : Session σ
  /-- Which caller has the lock. -/
  lock : Option Nat
  callers : List Caller

namespace Crowd

variable {σ : Type}

/-- Callers that all arrive. -/
def gather (s : Session σ) (count : Nat) : Crowd σ := ⟨s, none, List.replicate count .arriving⟩

/-- Sets how far a caller is. -/
def setCaller (c : Crowd σ) (i : Nat) (caller : Caller) : Crowd σ :=
  { c with callers := c.callers.set i caller }

/-- Gives a caller its answer and takes the lock from it. -/
def release (c : Crowd σ) (i : Nat) (r : Except ProvisionError Readiness) : Crowd σ :=
  { c.setCaller i (.answered r) with lock := none }

/-- What a caller does next; nothing if it has its answer or has to wait. -/
def move (v : Provisioner) (run : Runner σ) (c : Crowd σ) (i : Nat) : Option (Crowd σ) :=
  let isReady := v.layout.isValid c.session.tree
  match c.callers[i]? with
  | some .arriving => some (c.setCaller i (if isReady then .answered (.ok .already) else .waiting))
  | some .waiting =>
    match c.lock with
    | none => some { c.setCaller i .holding with lock := some i }
    | some _ => none
  | some .holding =>
    if isReady then some (c.setCaller i (.leaving (.ok .already)))
    else
      let (_, s) := (v.announce : Action σ ProvisionError Unit) c.session
      some { c.setCaller i (.settingUp v.bundle.setupSteps) with session := s }
  | some (.settingUp (step :: steps)) =>
    let (r, s) := v.step run step c.session
    let c := { c with session := s }
    match r with
    | .ok () => some (c.setCaller i (.settingUp steps))
    | .error e => some (c.setCaller i (.leaving (.error e)))
  | some (.settingUp []) =>
    let (_, s) := (Action.emit .installed : Action σ ProvisionError Unit) c.session
    some ({ c with session := s }.setCaller i (.leaving (.ok .provisioned)))
  | some (.leaving r) => some (c.release i r)
  | some (.answered _) => none
  | none => none

/-- Lets every caller in turn do what it can. -/
def sweep (v : Provisioner) (run : Runner σ) (c : Crowd σ) : Crowd σ :=
  (List.range c.callers.length).foldl (fun c i => (c.move v run i).getD c) c

/-- Sweeps until every caller has its answer, at most as often as the number says. -/
def settleWithin (v : Provisioner) (run : Runner σ) : Nat → Crowd σ → Crowd σ
  | 0, c => c
  | n + 1, c =>
    if c.callers.all Caller.isAnswered then c else settleWithin v run n (c.sweep v run)

/-- How many sweeps every crowd of this size needs at most: a caller that waits is
next in turn at the latest when all others have done all their steps. -/
def sweepBound (v : Provisioner) (count : Nat) : Nat :=
  (count + 1) * (v.bundle.setupSteps.length + 6)

/-- Lets all callers go on until each has its answer. -/
def settle (v : Provisioner) (run : Runner σ) (c : Crowd σ) : Crowd σ :=
  settleWithin v run (sweepBound v c.callers.length) c

/-- How many callers have an answer of this kind. -/
def countAnswers (c : Crowd σ) (test : Except ProvisionError Readiness → Bool) : Nat :=
  c.callers.countP fun
    | .answered r => test r
    | _ => false

end Crowd
end LintHub
