import LintHub.Run

/-!
# The text report

For each run and each of its files a header, the file's diagnostics below it and an
empty line; at the end one line of totals, red, yellow or green. The report is
built as a list of lines, each of which a line feed ends.
-/

namespace LintHub.Report

/-- Lines as they are printed: each is ended by a line feed. -/
def unlines (lines : List String) : String := String.join (lines.map (· ++ "\n"))

/-- A terminal colour. -/
inductive Colour where
  | red
  | yellow
  | green
  deriving DecidableEq, Repr

/-- The terminal sequence that switches to a colour. -/
def Colour.code : Colour → String
  | .red => "\x1b[31m"
  | .yellow => "\x1b[33m"
  | .green => "\x1b[32m"

/-- The terminal sequence that switches colours off. -/
def reset : String := "\x1b[0m"

/-- The next number, in 32 bits. -/
def oneBased (n : UInt32) : UInt32 := n + 1

/-- A one-based position, or a dash where the tool gave none. -/
def position : Option UInt32 → String
  | none => "-"
  | some n => toString (oneBased n).toNat

/-- The word for a severity, in its colour. -/
def severityMark : Severity → String
  | .error => Colour.red.code ++ "error" ++ reset
  | .warning => Colour.yellow.code ++ "warning" ++ reset

namespace Text

/-- The line of one diagnostic. -/
def diagnosticLine (d : Diagnostic) : String :=
  "  " ++ position d.line ++ ":" ++ position d.column ++ "  " ++ severityMark d.severity ++
    d.codeSuffix ++ ": " ++ d.message

/-- One diagnostic, with a link to its rule where there is one. -/
def diagnosticLines (d : Diagnostic) : List String :=
  diagnosticLine d :: (d.helpUrl.toList.map fun url => "    = help: " ++ url)

/-- The header above the diagnostics of one file. -/
def header (linter : Kind) (file : Path) : String := file.text ++ " (" ++ linter.displayName ++ ")"

/-- One file of a run. -/
def groupLines (linter : Kind) (g : FileGroup) : List String :=
  header linter g.file :: g.diagnostics.flatMap diagnosticLines ++ [""]

/-- One run. -/
def runLines (r : LintRun) : List String := r.byFile.flatMap (groupLines r.linter)

/-- The colour of the totals: the gravest severity found. -/
def totalsColour (s : Summary) : Colour :=
  if 0 < s.errors then .red else if 0 < s.warnings then .yellow else .green

/-- The line of totals. -/
def totals (s : Summary) : String :=
  (totalsColour s).code ++ "Found " ++ toString s.errors ++ " error(s), " ++ toString s.warnings ++
    " warning(s) in " ++ toString s.files ++ " file(s) with " ++ toString s.runs ++
    " linter(s)" ++ reset

/-- The whole report, line by line. -/
def reportLines (runs : List LintRun) : List String :=
  runs.flatMap runLines ++ [totals (Summary.ofRuns runs)]

end Text
end LintHub.Report
