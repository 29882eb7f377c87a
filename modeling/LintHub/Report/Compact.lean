import LintHub.Report.Text

/-!
# The compact report

One line per diagnostic, in the order of the runs, and nothing else.
-/

namespace LintHub.Report.Compact

/-- The diagnostics of all runs, in order. -/
def diagnostics (runs : List LintRun) : List Diagnostic := runs.flatMap (·.diagnostics)

/-- The whole report, one entry per diagnostic. -/
def reportLines (runs : List LintRun) : List String := (diagnostics runs).map Diagnostic.display

end LintHub.Report.Compact
