import LintHub.Text.Scan

/-!
# TOML dates and times

A date, a time of day, or a date and a time with or without an offset from UTC.
Days exist in the calendar, a minute may have a leap second, and seconds are never
left out.
-/

namespace LintHub.Toml

/-- A two-digit number between bounds, and what follows it. -/
def twoDigits? (low high : Nat) : List Char → Option (Nat × List Char)
  | a :: b :: cs =>
    if a.isDigit ∧ b.isDigit then
      let n := Text.decimal [a, b]
      if low ≤ n ∧ n ≤ high then some (n, cs) else none
    else none
  | _ => none

/-- How many days a month has. -/
def daysInMonth (year month : Nat) : Nat :=
  if month = 2 then
    if year % 4 = 0 ∧ (year % 100 ≠ 0 ∨ year % 400 = 0) then 29 else 28
  else if month = 4 ∨ month = 6 ∨ month = 9 ∨ month = 11 then 30
  else 31

/-- Drops a date. -/
def dropDate? : List Char → Option (List Char)
  | a :: b :: c :: d :: '-' :: cs =>
    if [a, b, c, d].all Char.isDigit then do
      let (month, cs) ← twoDigits? 1 12 cs
      let cs ← Text.dropWord ['-'] cs
      let (_, cs) ← twoDigits? 1 (daysInMonth (Text.decimal [a, b, c, d]) month) cs
      return cs
    else none
  | _ => none

/-- Drops a fraction of a second, if there is one. -/
def dropFraction? : List Char → Option (List Char)
  | '.' :: cs =>
    match Text.digits cs with
    | ([], _) => none
    | (_, rest) => some rest
  | cs => some cs

/-- Drops a time of day. -/
def dropTime? (cs : List Char) : Option (List Char) := do
  let (_, cs) ← twoDigits? 0 23 cs
  let cs ← Text.dropWord [':'] cs
  let (_, cs) ← twoDigits? 0 59 cs
  let cs ← Text.dropWord [':'] cs
  let (_, cs) ← twoDigits? 0 60 cs
  dropFraction? cs

/-- Drops an offset from UTC, if there is one. -/
def dropOffset? : List Char → Option (List Char)
  | [] => some []
  | c :: cs =>
    if c = 'Z' ∨ c = 'z' then some cs
    else if c = '+' ∨ c = '-' then do
      let (_, cs) ← twoDigits? 0 23 cs
      let cs ← Text.dropWord [':'] cs
      let (_, cs) ← twoDigits? 0 59 cs
      return cs
    else none

/-- Whether a text is a date alone. -/
def isDate (cs : List Char) : Bool := dropDate? cs == some []

/-- Whether a text is a date, a time, or both. -/
def isMoment (cs : List Char) : Bool :=
  match dropDate? cs with
  | some [] => true
  | some (t :: rest) =>
    (t == 'T' || t == 't' || t == ' ') && (dropTime? rest).bind dropOffset? == some []
  | none => dropTime? cs == some []

end LintHub.Toml
