import LintHub.Toml.Entries
import LintHub.Toml.Moment
import LintHub.Toml.Number
import LintHub.Toml.Quoted

/-!
# Keys, values and lines

The pieces of a document: keys, possibly dotted, the values behind them, and the
lines, each of which assigns a value, opens a table or an array of tables, or holds
nothing but a comment. Arrays may run over lines, inline tables may not. Values nest
at most 79 deep and a dotted key has fewer than 80 parts.
-/

namespace LintHub.Toml

/-- Values may not nest as deep as this, and keys may not have as many parts. -/
def depthLimit : Nat := 80

/-- Drops blanks inside a line. -/
def skipBlanks (cs : List Char) : List Char := cs.dropWhile isInlineBlank

/-- Whether a character may stand in a key without quotes. -/
def isBareKeyChar (c : Char) : Bool := c.isAlphanum || c == '-' || c == '_'

/-- One part of a key, and what follows it. -/
def keyPart? (cs : List Char) : Option (String × List Char) :=
  match cs with
  | '"' :: _ => lineString? cs
  | '\'' :: _ => lineString? cs
  | _ =>
    match cs.takeWhile isBareKeyChar with
    | [] => none
    | name => some (String.ofList name, cs.dropWhile isBareKeyChar)

/-- The parts of a key, with blanks around each; the number bounds them. -/
def keyParts? : Nat → List Char → Option (List String × List Char)
  | 0, _ => none
  | n + 1, cs =>
    match keyPart? (skipBlanks cs) with
    | none => none
    | some (part, rest) =>
      match skipBlanks rest with
      | '.' :: more => (keyParts? n more).map fun r => (part :: r.1, r.2)
      | rest => some ([part], rest)

/-- A key, and what follows it. -/
def key? (cs : List Char) : Option (DottedKey × List Char) :=
  match keyParts? (depthLimit - 1) cs with
  | none => none
  | some (parts, rest) => parts.getLast?.map fun key => (⟨parts.dropLast, key⟩, rest)

/-- Drops a comment up to the end of its line; `none` if it holds a control character. -/
def dropComment? (cs : List Char) : Option (List Char) :=
  match cs.dropWhile isPlain with
  | [] => some []
  | '\n' :: r => some ('\n' :: r)
  | '\r' :: '\n' :: r => some ('\r' :: '\n' :: r)
  | _ => none

/-- Drops blanks, line ends and comments; the number bounds the comments. -/
def skipLines? : Nat → List Char → Option (List Char)
  | 0, cs => some (skipBlankLines cs)
  | n + 1, cs =>
    match skipBlankLines cs with
    | '#' :: r => (dropComment? r).bind (skipLines? n)
    | cs => some cs

/-- Drops blanks, line ends and comments. -/
def skipAll? (cs : List Char) : Option (List Char) := skipLines? cs.length cs

/-- Whether a character may stand in a number, a time or a truth value. -/
def isWordChar (c : Char) : Bool := isBareKeyChar c || c == '+' || c == '.' || c == ':'

/-- The value a bare word stands for. -/
def word? (cs : List Char) : Option Value :=
  if cs = "true".toList then some (.boolean true)
  else if cs = "false".toList then some (.boolean false)
  else match integer? cs with
    | some n => some (.integer n)
    | none =>
      if isFloat cs then some (.float (String.ofList cs))
      else if isMoment cs then some (.moment (String.ofList cs))
      else none

/-- A bare word, and what follows it. A date and a time may have a blank between them. -/
def bareValue? (cs : List Char) : Option (Value × List Char) :=
  let first := cs.takeWhile isWordChar
  let rest := cs.dropWhile isWordChar
  match rest with
  | ' ' :: d :: r =>
    if isDate first ∧ d.isDigit then
      let both := first ++ ' ' :: (d :: r).takeWhile isWordChar
      (word? both).map fun v => (v, (d :: r).dropWhile isWordChar)
    else (word? first).map fun v => (v, rest)
  | _ => (word? first).map fun v => (v, rest)

mutual

/-- A value nested below `depth` others may hold `depth` more; the first number bounds
the steps. -/
def value? : Nat → Nat → List Char → Option (Value × List Char)
  | 0, _, _ => none
  | n + 1, depth, cs =>
    match cs with
    | '[' :: r =>
      match depth with
      | 0 => none
      | depth + 1 =>
        match skipAll? r with
        | none => none
        | some (']' :: rest) => some (.array [], rest)
        | some rest => (items? n depth rest).map fun p => (.array p.1, p.2)
    | '{' :: r =>
      match depth with
      | 0 => none
      | depth + 1 =>
        match skipBlanks r with
        | '}' :: rest => some (.table [], rest)
        | rest =>
          match assignments? n depth rest with
          | none => none
          | some (as, rest) => (inlineTable? as).map fun v => (v, rest)
    | '"' :: _ => (string? cs).map fun p => (.string p.1, p.2)
    | '\'' :: _ => (string? cs).map fun p => (.string p.1, p.2)
    | _ => bareValue? cs

/-- The items of an array up to its end, beginning at one. -/
def items? : Nat → Nat → List Char → Option (List Value × List Char)
  | 0, _, _ => none
  | n + 1, depth, cs =>
    match value? n depth cs with
    | none => none
    | some (v, rest) =>
      match skipAll? rest with
      | some (']' :: rest) => some ([v], rest)
      | some (',' :: rest) =>
        match skipAll? rest with
        | some (']' :: rest) => some ([v], rest)
        | some rest => (items? n depth rest).map fun p => (v :: p.1, p.2)
        | none => none
      | _ => none

/-- The assignments of an inline table up to its end, beginning at one. -/
def assignments? : Nat → Nat → List Char → Option (List Assignment × List Char)
  | 0, _, _ => none
  | n + 1, depth, cs =>
    match key? cs with
    | some (key, '=' :: rest) =>
      match value? n depth (skipBlanks rest) with
      | none => none
      | some (v, rest) =>
        match skipBlanks rest with
        | '}' :: rest => some ([(key, v)], rest)
        | ',' :: rest => (assignments? n depth rest).map fun p => ((key, v) :: p.1, p.2)
        | _ => none
    | _ => none

end

/-- What a line says. -/
inductive Line where
  | assignment (a : Assignment)
  /-- The header of a table. -/
  | table (key : DottedKey)
  /-- The header of one more table in an array. -/
  | element (key : DottedKey)
  deriving Repr

/-- The end of a line: blanks, perhaps a comment, and a line end or the end of the text. -/
def lineEnd? (cs : List Char) : Option (List Char) :=
  let ended (cs : List Char) : Option (List Char) :=
    match cs with
    | [] => some []
    | cs => dropNewline? cs
  match skipBlanks cs with
  | '#' :: r => (dropComment? r).bind ended
  | cs => ended cs

/-- One line that is not blank, and what follows it. -/
def line? (cs : List Char) : Option (Line × List Char) := do
  match cs with
  | '[' :: '[' :: r =>
    match ← key? r with
    | (key, ']' :: ']' :: rest) => return (.element key, ← lineEnd? rest)
    | _ => none
  | '[' :: r =>
    match ← key? r with
    | (key, ']' :: rest) => return (.table key, ← lineEnd? rest)
    | _ => none
  | _ =>
    match ← key? cs with
    | (key, '=' :: rest) =>
      let (v, rest) ← value? (2 * rest.length + 2) (depthLimit - 1) (skipBlanks rest)
      return (.assignment (key, v), ← lineEnd? rest)
    | _ => none

/-- The lines of a text; the number bounds them. -/
def linesWithin? : Nat → List Char → Option (List Line)
  | n, cs =>
    match skipAll? cs with
    | none => none
    | some [] => some []
    | some (c :: r) =>
      match n with
      | 0 => none
      | n + 1 =>
        match line? (c :: r) with
        | none => none
        | some (line, rest) => (linesWithin? n rest).map (line :: ·)

/-- A text without the byte order mark it may begin with. -/
def dropMark : List Char → List Char
  | c :: cs => if c.toNat = 0xFEFF then cs else c :: cs
  | [] => []

/-- The lines of a document that say something. -/
def lines? (cs : List Char) : Option (List Line) := linesWithin? cs.length (dropMark cs)

end LintHub.Toml
