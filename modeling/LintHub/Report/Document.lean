import LintHub.Exchange
import LintHub.Json.Reader
import LintHub.Json.Writer

/-!
# The JSON report

One object with the runs and their summary. `readRuns?` takes the runs out of such
a report again.
-/

namespace LintHub.Report.Document

open Json

/-- The report as a JSON value. -/
def toJson (runs : List LintRun) : Value :=
  .record [("runs", .array (runs.map LintRun.toJson)), ("summary", (Summary.ofRuns runs).toJson)]

/-- The runs of a report. -/
def readRuns? (report : String) : Option (List LintRun) := do
  let v ← parse? report
  let runs ← v.member? "runs"
  let items ← runs.asList?
  items.mapM LintRun.ofJson?

end LintHub.Report.Document
