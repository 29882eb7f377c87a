import LintHub.Event

/-!
# The journal

What comes up while work goes on is kept in one list, in order: the events that a
caller is told, and records for whoever looks into a log. The events alone are a view
of it (`Remark.events`).

* `events_append`: the view of two journals in a row.
-/

namespace LintHub

/-- How much a record matters. -/
inductive Level where
  /-- For those who look for a fault. -/
  | debug
  | info
  | warn
  deriving DecidableEq, Repr

/-- One entry of a journal. -/
inductive Remark where
  /-- The caller is told this. -/
  | told (e : Event)
  /-- The log gets this text. -/
  | logged (level : Level) (text : String)
  deriving DecidableEq, Repr

namespace Remark

/-- What the caller is told, if anything. -/
def event? : Remark → Option Event
  | .told e => some e
  | .logged .. => none

/-- What the caller is told, in order. -/
def events (journal : List Remark) : List Event := journal.filterMap event?

theorem events_append (j k : List Remark) : events (j ++ k) = events j ++ events k :=
  List.filterMap_append

@[simp] theorem events_told (e : Event) : events [.told e] = [e] := rfl

@[simp] theorem events_logged (level : Level) (text : String) :
    events [.logged level text] = [] := rfl

end Remark
end LintHub
