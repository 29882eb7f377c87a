import LintHub.Journal
import LintHub.Report.Failure

/-!
# What a command writes

A command ends with a status, a text for standard output, and notices for standard
error: texts that are shown as they are, and log records, which get the time and their
level in front and have control characters of terminals spelled out. Records for those who
look for a fault are written only if that is asked for.
-/

namespace LintHub.Command

/-- Something written to standard error. -/
inductive Notice where
  /-- A text as it is. -/
  | shown (text : String)
  /-- A log record. -/
  | logged (level : Level) (text : String)
  deriving DecidableEq, Repr

/-- How a command ends. -/
structure Outcome where
  status : Nat
  stdout : String
  stderr : List Notice
  deriving DecidableEq, Repr

/-- How a command ends that could not do its work. -/
def Outcome.failed (before : List Notice) (f : Failure) : Outcome :=
  ⟨1, "", before ++ [.shown (Report.failure f)]⟩

namespace Notice

/-- Whether a notice is written. -/
def isWritten (verbose : Bool) : Notice → Bool
  | .logged .debug _ => verbose
  | _ => true

/-- The name of a level, filled up in front to five characters. -/
def levelName : Level → String
  | .debug => "DEBUG"
  | .info => " INFO"
  | .warn => " WARN"

/-- Digits of a small number in base sixteen. -/
def hexText (n : Nat) : List Char := Nat.toDigits 16 n

/-- A character of a log record; what could control a terminal is spelled out. -/
def spell (c : Char) : List Char :=
  let n := c.toNat
  if n = 0x1B ∨ n = 0x7F then "\\x".toList ++ hexText n
  else if n = 7 ∨ n = 8 ∨ n = 12 then "\\x0".toList ++ hexText n
  else if 0x80 ≤ n ∧ n ≤ 0x9F then "\\u\x7b".toList ++ hexText n ++ ['}']
  else [c]

/-- A notice as it is written; `time` is what log records begin with. -/
def print (time : String) : Notice → String
  | shown text => text
  | logged level text =>
    time ++ " " ++ levelName level ++ " " ++ String.ofList (text.toList.flatMap spell) ++ "\n"

/-- Everything a command writes to standard error. -/
def printAll (time : String) (notices : List Notice) : String :=
  String.join (notices.map (print time))

/-- The notices of a journal, where `tell` says how the user is told of an event. -/
def ofJournal (tell : Event → Option String) (journal : List Remark) : List Notice :=
  journal.filterMap fun
    | .told e => (tell e).map shown
    | .logged level text => some (logged level text)

end Notice
end LintHub.Command
