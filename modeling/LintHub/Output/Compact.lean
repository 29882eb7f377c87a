import LintHub.Diagnostic
import LintHub.Output.Position
import LintHub.Text.Lines

/-!
# CSS Lint's compact format

One issue on each line, `file: line l, col c, Level - message`. The text in front of
the position is a file only if it names one of the batch; otherwise, as in lines that
begin with the position, the issue belongs to the first file of the batch.
-/

namespace LintHub.Output.Compact

/-- What stands around the position on a line. -/
structure Parts where
  /-- The text in front of the position. -/
  file : List Char
  line : List Char
  column : List Char
  message : List Char
  deriving DecidableEq, Repr

/-- A position and the message behind it, which is not empty. -/
def location? (cs : List Char) : Option (List Char × List Char × List Char) := do
  let cs ← Text.dropWord ": line ".toList cs
  let (line, cs) := Text.digits cs
  let cs ← Text.dropWord ", col ".toList cs
  let (column, cs) := Text.digits cs
  let message ← Text.dropWord ", ".toList cs
  if line ≠ [] ∧ column ≠ [] ∧ message ≠ [] then some (line, column, message) else none

/-- Cuts a line at the first position. -/
def split? (cs : List Char) : Option Parts :=
  (Text.shortest location? cs).map fun (file, line, column, message) =>
    { file, line, column, message }

/-- The separator between a level and a message. -/
def dash? (cs : List Char) : Option (List Char) := Text.dropWord " - ".toList cs

/-- The severity and the text of a message. A level is a whole word in front of the
first dash; any other message is a warning as it stands. -/
def splitLevel (message : List Char) : Severity × List Char :=
  match Text.shortest dash? message with
  | some (level, rest) =>
    if Text.sameWord level "error".toList then (.error, rest)
    else if Text.sameWord level "warning".toList then (.warning, rest)
    else (.warning, message)
  | none => (.warning, message)

/-- The file of the batch that a text names, or else the first one. -/
def fileFor (first : Path) (files : List Path) (text : List Char) : Path :=
  (files.find? fun f => decide (Path.Same f (Path.ofChars (Text.trim text)))).getD first

/-- The issue on one line, for a batch whose first file is `first`. -/
def diagnostic? (first : Path) (files : List Path) (line : List Char) : Option Diagnostic :=
  (split? line).map fun p =>
    let (severity, message) := splitLevel (Text.trim p.message)
    { file := fileFor first files p.file
      line := position? p.line
      column := position? p.column
      message := String.ofList message
      severity
      code := none
      linter := .cssLint }

/-- The issues of an output, in order; without files there are none. -/
def read (output : String) (files : List Path) : List Diagnostic :=
  match files with
  | [] => []
  | first :: _ => (Text.lines output.toList).filterMap (diagnostic? first files)

end LintHub.Output.Compact
