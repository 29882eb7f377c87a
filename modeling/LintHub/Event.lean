import LintHub.Kind

/-!
# Events

What a caller is told while linting goes on, and how events reach a listener that may
stop listening: what is sent afterwards is lost, and nobody minds.
-/

namespace LintHub

/-- Something a caller is told. -/
inductive Event where
  /-- The environment is being installed. -/
  | installing
  /-- The environment has been installed. -/
  | installed
  /-- A linter is about to run: the number of linters of this call, how many of them
  have finished, which one runs and on how many files. -/
  | progress (total completed : Nat) (linter : Kind) (files : Nat)
  /-- All linters of the call have run. -/
  | done (total : Nat)
  deriving DecidableEq, Repr

/-- The receiving end of a channel. -/
structure Listener where
  /-- Whether events still arrive. -/
  listening : Bool
  /-- What arrived, in order. -/
  received : List Event
  deriving DecidableEq, Repr

namespace Listener

/-- A listener that has received nothing yet. -/
def fresh : Listener := ⟨true, []⟩

/-- Sends an event; nothing happens once nobody listens. -/
def send (l : Listener) (e : Event) : Listener :=
  if l.listening then { l with received := l.received ++ [e] } else l

/-- Stops listening. -/
def hangUp (l : Listener) : Listener := { l with listening := false }

/-- Sends all of these events in order. -/
def sendAll (l : Listener) (es : List Event) : Listener := es.foldl send l

end Listener
end LintHub
