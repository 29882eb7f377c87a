import LintHub.Exchange
import LintHub.Json.Reader
import LintHub.Output.Position

/-!
# ESLint's JSON format

An array of results, one per file, each with its messages. The output counts as a
whole: if any part of it has the wrong form there are no issues at all.
-/

namespace LintHub.Output.Results

open Json

/-- One message of a result, numbered as the tool numbers it. -/
structure Message where
  line : Option UInt32
  column : Option UInt32
  text : String
  /-- Two is an error, anything else a warning. -/
  severity : Nat
  rule : Option String
  deriving DecidableEq, Repr

/-- The messages of one file. -/
structure FileResult where
  file : Path
  messages : List Message
  deriving DecidableEq, Repr

/-- The severity that stands for an error. -/
def errorLevel : Nat := 2

/-- The message a JSON value writes. -/
def Message.ofJson? (v : Value) : Option Message :=
  match fields? ["line", "column", "message", "severity", "ruleId"] v with
  | some [line, column, some text, severity, rule] => do
    let line ← optionalField? word32? line
    let column ← optionalField? word32? column
    let text ← text.asText?
    let severity ← defaultField? 0 (natBelow? 256) severity
    let rule ← optionalField? Value.asText? rule
    return { line, column, text, severity, rule }
  | _ => none

/-- The messages a JSON value writes. -/
def messages? (v : Value) : Option (List Message) := do
  let items ← v.asList?
  items.mapM Message.ofJson?

/-- The result a JSON value writes. -/
def FileResult.ofJson? (v : Value) : Option FileResult :=
  match fields? ["filePath", "messages"] v with
  | some [some file, messages] => do
    let file ← Path.ofJson? file
    let messages ← defaultField? [] messages? messages
    return { file, messages }
  | _ => none

/-- The results an output writes. -/
def results? (output : String) : Option (List FileResult) := do
  let v ← parse? output
  let items ← v.asList?
  items.mapM FileResult.ofJson?

/-- A message as a diagnostic of its file. -/
def Message.diagnostic (file : Path) (m : Message) : Diagnostic where
  file := file
  line := m.line.map zeroBased
  column := m.column.map zeroBased
  message := m.text
  severity := if m.severity = errorLevel then .error else .warning
  code := m.rule
  linter := .esLint

/-- The diagnostics of one file. -/
def FileResult.diagnostics (r : FileResult) : List Diagnostic :=
  r.messages.map (Message.diagnostic r.file)

/-- The issues of an output, in order. -/
def read (output : String) : List Diagnostic :=
  match results? output with
  | none => []
  | some results => results.flatMap FileResult.diagnostics

end LintHub.Output.Results
