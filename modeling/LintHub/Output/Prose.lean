import LintHub.Diagnostic
import LintHub.Output.Position
import LintHub.Text.Lines

/-!
# TSLint's prose format

One issue on each line, `ERROR: file[line, column]: message`. The level in front may
be missing, which makes the issue a warning; lines of any other form are skipped.
The file ends at the first place where a position follows.
-/

namespace LintHub.Output.Prose

/-- What stands around the position on a line. -/
structure Parts where
  file : List Char
  line : List Char
  column : List Char
  message : List Char
  deriving DecidableEq, Repr

/-- A position in brackets, a colon, a blank and a message that is not empty. -/
def location? (cs : List Char) : Option (List Char × List Char × List Char) := do
  let cs ← Text.dropWord ['['] cs
  let (line, cs) := Text.digits cs
  let cs ← Text.dropWord [',', ' '] cs
  let (column, cs) := Text.digits cs
  let message ← Text.dropWord [']', ':', ' '] cs
  if line ≠ [] ∧ column ≠ [] ∧ message ≠ [] then some (line, column, message) else none

/-- Cuts a text at the first position behind a file name. -/
def split? (cs : List Char) : Option Parts :=
  (Text.shortestNonempty location? cs).map fun (file, line, column, message) =>
    { file, line, column, message }

/-- The level in front of a line, and what follows it. -/
def level? (cs : List Char) : Option (Severity × List Char) :=
  match Text.dropWord "error: ".toList cs with
  | some r => some (.error, r)
  | none => (Text.dropWord "warning: ".toList cs).map fun r => (.warning, r)

/-- The severity and parts of a line: the level counts if the rest can be cut, and
otherwise belongs to the file. -/
def lineParts? (cs : List Char) : Option (Severity × Parts) :=
  let leveled := (level? cs).bind fun (s, r) => (split? r).map fun p => (s, p)
  match leveled with
  | some r => some r
  | none => (split? cs).map fun p => (.warning, p)

/-- The issue on one line. -/
def diagnostic? (line : List Char) : Option Diagnostic :=
  (lineParts? (Text.trim line)).map fun (severity, p) =>
    { file := Path.ofChars (Text.trim p.file)
      line := position? p.line
      column := position? p.column
      message := String.ofList (Text.trim p.message)
      severity
      code := none
      linter := .tsLint }

/-- The issues of an output, in order. -/
def read (output : String) : List Diagnostic := (Text.lines output.toList).filterMap diagnostic?

end LintHub.Output.Prose
