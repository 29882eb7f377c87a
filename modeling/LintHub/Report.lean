import LintHub.Report.Text
import LintHub.Report.Compact
import LintHub.Report.Document

/-!
# Reports

The three forms in which the runs of a check are printed. A report in JSON is not printed at
all if the path of a file is no Unicode.
-/

namespace LintHub.Report

/-- The form of a report. -/
inductive Format where
  | text
  | json
  | compact
  deriving DecidableEq, Repr, Inhabited

/-- The form with this name, which is case-sensitive. -/
def Format.ofName : String → Option Format
  | "text" => some .text
  | "json" => some .json
  | "compact" => some .compact
  | _ => none

/-- The report of a list of runs, as printed. -/
def render (format : Format) (runs : List LintRun) : String :=
  match format with
  | .text => unlines (Text.reportLines runs)
  | .json => Json.pretty (Document.toJson runs) ++ "\n"
  | .compact => unlines (Compact.reportLines runs)

/-- Whether a report can be printed: JSON cannot write a path that is no Unicode. Only files
that were found have one. What a linter prints is decoded first, so a diagnostic is about one of
the files or about a path that was read from text. -/
def isPrintable (isMalformed : Path → Bool) (format : Format) (runs : List LintRun) : Bool :=
  format != .json || runs.all fun r => r.files.all fun f => !isMalformed f

/-- What is said of a path that is no Unicode. -/
def malformedPath : String := "path contains invalid UTF-8 characters"

/-- Prints the report of a list of runs, if that is possible. -/
def print (isMalformed : Path → Bool) (format : Format) (runs : List LintRun) :
    Except String String :=
  if isPrintable isMalformed format runs then .ok (render format runs)
  else .error malformedPath

end LintHub.Report
