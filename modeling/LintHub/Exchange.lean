import LintHub.Run
import LintHub.Json.Fields

/-!
# Diagnostics and runs as JSON

The JSON form in which reports are exchanged, and its reader. A rule's code is left
out when there is none; every other field is always written.
-/

namespace LintHub

open Json

/-- The severity a JSON value names. -/
def Severity.ofJson? (v : Value) : Option Severity := (word? v).bind Severity.ofWord

/-- The linter a JSON value names. -/
def Kind.ofJson? (v : Value) : Option Kind := (word? v).bind Kind.ofTool

/-- A number of 32 bits. -/
def word32? (v : Value) : Option UInt32 := (natBelow? UInt32.size v).map UInt32.ofNat

/-- A path. -/
def Path.ofJson? (v : Value) : Option Path := v.asText?.map Path.mk

namespace Diagnostic

/-- The fields of a diagnostic, in order. -/
def fieldNames : List String := ["file", "line", "column", "message", "severity", "code", "linter"]

/-- A diagnostic as JSON. -/
def toJson (d : Diagnostic) : Value :=
  .record <|
    [("file", .text d.file.text),
     ("line", .optional (fun n : UInt32 => .nat n.toNat) d.line),
     ("column", .optional (fun n : UInt32 => .nat n.toNat) d.column),
     ("message", .text d.message),
     ("severity", .text d.severity.word)] ++
    (match d.code with
      | none => []
      | some c => [("code", .text c)]) ++
    [("linter", .text d.linter.tool)]

/-- The diagnostic a JSON value writes. -/
def ofJson? (v : Value) : Option Diagnostic :=
  match fields? fieldNames v with
  | some [some file, line, column, some message, some severity, code, some linter] => do
    let file ← Path.ofJson? file
    let line ← optionalField? word32? line
    let column ← optionalField? word32? column
    let message ← message.asText?
    let severity ← Severity.ofJson? severity
    let code ← optionalField? Value.asText? code
    let linter ← Kind.ofJson? linter
    return { file, line, column, message, severity, code, linter }
  | _ => none

end Diagnostic

namespace LintRun

/-- The fields of a run, in order. -/
def fieldNames : List String := ["linter", "files", "diagnostics"]

/-- A run as JSON. -/
def toJson (r : LintRun) : Value :=
  .record
    [("linter", .text r.linter.tool),
     ("files", .array (r.files.map fun f => .text f.text)),
     ("diagnostics", .array (r.diagnostics.map Diagnostic.toJson))]

/-- The run a JSON value writes. -/
def ofJson? (v : Value) : Option LintRun :=
  match fields? fieldNames v with
  | some [some linter, some files, some diagnostics] => do
    let linter ← Kind.ofJson? linter
    let files ← files.asList?
    let files ← files.mapM Path.ofJson?
    let diagnostics ← diagnostics.asList?
    let diagnostics ← diagnostics.mapM Diagnostic.ofJson?
    return { linter, files, diagnostics }
  | _ => none

end LintRun

/-- A summary as JSON. -/
def Summary.toJson (s : Summary) : Value :=
  .record
    [("runs", .nat s.runs), ("files", .nat s.files), ("errors", .nat s.errors),
     ("warnings", .nat s.warnings)]

end LintHub
