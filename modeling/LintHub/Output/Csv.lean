import LintHub.Diagnostic
import LintHub.Output.Position
import LintHub.Text.Lines

/-!
# CoffeeLint's CSV format

One issue on each line, `file,line,lineEnd,level,message`, where the end may be empty
and the level is `error`, `warn` or `warning`. Nothing is quoted: the file ends at the
first place where the other fields follow, and the message is the rest. The header
and lines of any other form are skipped.
-/

namespace LintHub.Output.Csv

/-- What the fields behind the file say. -/
structure Parts where
  file : List Char
  line : List Char
  severity : Severity
  message : List Char
  deriving DecidableEq, Repr

/-- A level and the comma behind it. -/
def level? (cs : List Char) : Option (Severity × List Char) :=
  match Text.dropWord "error,".toList cs with
  | some r => some (.error, r)
  | none =>
    match Text.dropWord "warn,".toList cs with
    | some r => some (.warning, r)
    | none => (Text.dropWord "warning,".toList cs).map fun r => (.warning, r)

/-- The fields behind the file; the message is not empty. -/
def tail? (cs : List Char) : Option (List Char × Severity × List Char) := do
  let cs ← Text.dropWord [','] cs
  let (line, cs) := Text.digits cs
  let cs ← Text.dropWord [','] cs
  let (_, cs) := Text.digits cs
  let cs ← Text.dropWord [','] cs
  let (severity, message) ← level? cs
  if line ≠ [] ∧ message ≠ [] then some (line, severity, message) else none

/-- Cuts a line into its fields. -/
def split? (cs : List Char) : Option Parts :=
  (Text.shortestNonempty tail? cs).map fun (file, line, severity, message) =>
    { file, line, severity, message }

/-- The issue on one line. -/
def diagnostic? (line : List Char) : Option Diagnostic :=
  (split? (Text.trim line)).map fun p =>
    { file := Path.ofChars p.file
      line := position? p.line
      column := none
      message := String.ofList (Text.trim p.message)
      severity := p.severity
      code := none
      linter := .coffeeLint }

/-- The issues of an output, in order. -/
def read (output : String) : List Diagnostic := (Text.lines output.toList).filterMap diagnostic?

end LintHub.Output.Csv
