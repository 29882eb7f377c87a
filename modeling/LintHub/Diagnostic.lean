import LintHub.Kind

/-!
# Diagnostics

One issue reported by a linter, in the form common to all of them. Lines and
columns count from zero inside the program and from one wherever a person reads
them; they fit in 32 bits, and the one-based number is computed without that limit.
-/

namespace LintHub

/-- How grave an issue is. -/
inductive Severity where
  | warning
  | error
  deriving DecidableEq, Repr, Inhabited

/-- The word for a severity, in reports and in JSON. -/
def Severity.word : Severity → String
  | .warning => "warning"
  | .error => "error"

/-- The severity with this word. -/
def Severity.ofWord : String → Option Severity
  | "warning" => some .warning
  | "error" => some .error
  | _ => none

/-- One issue on one file. -/
structure Diagnostic where
  /-- The file the issue belongs to. -/
  file : Path
  /-- Line, from zero, if the tool gave one. -/
  line : Option UInt32
  /-- Column, from zero, if the tool gave one. -/
  column : Option UInt32
  /-- What the tool says. -/
  message : String
  severity : Severity
  /-- The rule that was broken, if the tool names it. -/
  code : Option String
  /-- The linter that reported the issue. -/
  linter : Kind
  deriving DecidableEq, Repr

namespace Diagnostic

/-- What is said of a file that is not there. -/
def missingFileMessage : String := "The file doesn't exist"

/-- An issue with a file as a whole: no position and no rule. -/
def ofFile (linter : Kind) (file : Path) (severity : Severity) (message : String) : Diagnostic :=
  { file, line := none, column := none, message, severity, code := none, linter }

/-- Where the broken rule is documented, if the linter documents its rules and the
rule is known. -/
def helpUrl (d : Diagnostic) : Option String := do
  let format ← d.linter.helpFormat
  let code ← d.code
  return String.ofList (Text.replaceAll Kind.codeMark.toList code.toList format.toList)

/-- The one-based position as it follows the file name; a column without a line is
not shown. -/
def positionSuffix (d : Diagnostic) : String :=
  match d.line with
  | none => ""
  | some l =>
    ":" ++ toString (l.toNat + 1) ++
      match d.column with
      | none => ""
      | some c => ":" ++ toString (c.toNat + 1)

/-- A rule's code as it follows the severity. -/
def codeSuffix (d : Diagnostic) : String :=
  match d.code with
  | none => ""
  | some c => " [" ++ c ++ "]"

/-- The issue on one line. -/
def display (d : Diagnostic) : String :=
  d.file.text ++ d.positionSuffix ++ ": " ++ d.severity.word ++ d.codeSuffix ++
    " (" ++ d.linter.displayName ++ ") " ++ d.message

end Diagnostic
end LintHub
