import LintHub.Text.Lines
import LintHub.Text.Scan

/-!
# Time stamps

The text that setup leaves in the marker file: the date and time at which it finished,
as in `Saturday, October 17, 2026 10:00:00`. `Stamp.ofText?` reads it back.
-/

namespace LintHub

/-- A date and time. -/
structure Stamp where
  /-- The day of the week, from zero for Monday. -/
  weekday : Fin 7
  /-- The month, from zero for January. -/
  month : Fin 12
  day : Nat
  year : Nat
  hour : Nat
  minute : Nat
  second : Nat
  deriving DecidableEq, Repr, Inhabited

namespace Stamp

/-- The days of the week. -/
def weekdays : List String :=
  ["Monday", "Tuesday", "Wednesday", "Thursday", "Friday", "Saturday", "Sunday"]

/-- The months. -/
def months : List String :=
  ["January", "February", "March", "April", "May", "June", "July", "August", "September",
    "October", "November", "December"]

/-- A number with at least this many digits. -/
def padded (width n : Nat) : String :=
  let ds := toString n
  String.ofList (List.replicate (width - ds.length) '0') ++ ds

/-- The text of a stamp. -/
def text (s : Stamp) : String :=
  weekdays.getD s.weekday "" ++ ", " ++ months.getD s.month "" ++ " " ++ toString s.day ++ ", " ++
    padded 4 s.year ++ " " ++ padded 2 s.hour ++ ":" ++ padded 2 s.minute ++ ":" ++ padded 2 s.second

/-- The place of a word in a list of fewer than `n + 1` words. -/
def place? (n : Nat) (words : List String) (word : List Char) : Option (Fin n) :=
  let i := words.findIdx fun w => w.toList == word
  if h : i < n then some ⟨i, h⟩ else none

/-- A number of a given number of digits. -/
def number? (width : Nat) (cs : List Char) : Option Nat :=
  if cs.length = width ∧ cs.all Char.isDigit then some (Text.decimal cs) else none

/-- A day of the month, without a zero in front. -/
def day? (cs : List Char) : Option Nat :=
  let n := Text.decimal cs
  if cs.all Char.isDigit ∧ cs.head? ≠ some '0' ∧ 1 ≤ n ∧ n ≤ 31 ∧ cs.length ≤ 2 then some n
  else none

/-- A word with a comma behind it. -/
def withoutComma? (cs : List Char) : Option (List Char) :=
  if cs.getLast? = some ',' then some cs.dropLast else none

/-- The stamp that a text writes. -/
def ofText? (s : String) : Option Stamp :=
  match Text.fields ' ' s.toList with
  | [weekday, month, day, year, time] => do
    let weekday ← place? 7 weekdays (← withoutComma? weekday)
    let month ← place? 12 months month
    let day ← day? (← withoutComma? day)
    let year ← number? 4 year
    match Text.fields ':' time with
    | [hour, minute, second] =>
      return {
        weekday, month, day, year
        hour := ← number? 2 hour
        minute := ← number? 2 minute
        second := ← number? 2 second }
    | _ => none
  | _ => none

end Stamp
end LintHub
