import LintHub.Json.Token

/-!
# TOML strings

Basic strings in double quotes, with escapes, and literal strings in single quotes,
each on one line or, with three quotes, over several. A string over several lines
drops a line end behind its opening quotes, keeps one or two quotes in its text, and
may end in up to two quotes more than it needs. A carriage return counts only in
front of a line feed, and the pair is one line feed.
-/

namespace LintHub.Toml

/-- Whether a character may stand for itself in a string or comment: a tab, or no
control character. -/
def isPlain (c : Char) : Bool := c == '\t' || (0x20 ≤ c.toNat && c.toNat != 0x7F)

/-- Whether a character is a blank inside a line. -/
def isInlineBlank (c : Char) : Bool := c == ' ' || c == '\t'

/-- Drops a line end, if there is one. -/
def dropNewline? : List Char → Option (List Char)
  | '\n' :: cs => some cs
  | '\r' :: '\n' :: cs => some cs
  | _ => none

/-- The number that hexadecimal digits write. -/
def hex? (ds : List Char) : Option Nat :=
  ds.foldlM (fun n c => (Json.hexDigit? c).map (16 * n + ·)) 0

/-- The character with this number, if there is one. -/
def character? (n : Nat) : Option Char := if n.isValidChar then some (Char.ofNat n) else none

/-- The character that an escape stands for, and what follows the escape. -/
def escape? : List Char → Option (Char × List Char)
  | 'u' :: cs => numbered? 4 cs
  | 'U' :: cs => numbered? 8 cs
  | 'b' :: cs => some (Char.ofNat 8, cs)
  | 't' :: cs => some ('\t', cs)
  | 'n' :: cs => some ('\n', cs)
  | 'f' :: cs => some (Char.ofNat 12, cs)
  | 'r' :: cs => some ('\r', cs)
  | '"' :: cs => some ('"', cs)
  | '\\' :: cs => some ('\\', cs)
  | _ => none
where
  /-- A character given by its number. -/
  numbered? (count : Nat) (cs : List Char) : Option (Char × List Char) := do
    if cs.length < count then none
    else
      let n ← hex? (cs.take count)
      let c ← character? n
      return (c, cs.drop count)

/-- Drops blanks and line ends. -/
def skipBlankLines : List Char → List Char
  | '\r' :: '\n' :: cs => skipBlankLines cs
  | '\n' :: cs => skipBlankLines cs
  | ' ' :: cs => skipBlankLines cs
  | '\t' :: cs => skipBlankLines cs
  | cs => cs

/-- Drops a line end behind blanks, with all blanks and line ends after it. -/
def continuation? (cs : List Char) : Option (List Char) :=
  (dropNewline? (cs.dropWhile isInlineBlank)).map skipBlankLines

/-- The form of a string. -/
structure QuoteForm where
  /-- The quote around the string. -/
  quote : Char
  /-- Whether a backslash begins an escape. -/
  escapes : Bool
  /-- Whether the string may run over several lines. -/
  multiline : Bool
  deriving Repr

/-- How many of the quotes met in a string over several lines belong to its text, if
the string ends there: at three quotes it does, and up to two more are text. -/
def closing? (count : Nat) : Option Nat :=
  if count < 3 then none else some (min (count - 3) 2)

/-- Reads a string's text up to its end; the number bounds the steps, each of which
consumes a character. -/
def body? (form : QuoteForm) : Nat → List Char → Option (List Char × List Char)
  | 0, _ => none
  | _ + 1, [] => none
  | n + 1, c :: cs =>
    if c = form.quote then
      if form.multiline then
        let run := ((c :: cs).takeWhile (· == form.quote)).length
        match closing? run with
        | some kept => some (List.replicate kept c, (c :: cs).drop (3 + kept))
        | none =>
          (body? form n ((c :: cs).drop run)).map fun r => (List.replicate run c ++ r.1, r.2)
      else some ([], cs)
    else if c = '\\' ∧ form.escapes then
      match escape? cs with
      | some (e, rest) => (body? form n rest).map fun r => (e :: r.1, r.2)
      | none =>
        if form.multiline then (continuation? cs).bind (body? form n) else none
    else if isPlain c then (body? form n cs).map fun r => (c :: r.1, r.2)
    else if form.multiline then
      match dropNewline? (c :: cs) with
      | some rest => (body? form n rest).map fun r => ('\n' :: r.1, r.2)
      | none => none
    else none

/-- The text of a string behind its opening quotes, and what follows the string. -/
def text? (form : QuoteForm) (cs : List Char) : Option (String × List Char) :=
  (body? form (cs.length + 1) cs).map fun r => (String.ofList r.1, r.2)

/-- The text behind the quotes that open a string over several lines. -/
def afterOpening (cs : List Char) : List Char := (dropNewline? cs).getD cs

/-- A string on one line. -/
def lineString? : List Char → Option (String × List Char)
  | '"' :: cs => text? ⟨'"', true, false⟩ cs
  | '\'' :: cs => text? ⟨'\'', false, false⟩ cs
  | _ => none

/-- A string of any form. -/
def string? : List Char → Option (String × List Char)
  | '"' :: '"' :: '"' :: cs => text? ⟨'"', true, true⟩ (afterOpening cs)
  | '\'' :: '\'' :: '\'' :: cs => text? ⟨'\'', false, true⟩ (afterOpening cs)
  | cs => lineString? cs

end LintHub.Toml
