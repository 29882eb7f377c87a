import LintHub.Output.Prose
import LintHub.Output.Csv
import LintHub.Output.Compact
import LintHub.Output.Results

/-!
# Reading a linter's output

Each linter writes a format of its own; `Kind.read` turns any of them into
diagnostics. The batch matters only where the format does not name the file.
-/

namespace LintHub

/-- The issues that a linter's standard output reports on a batch of files. -/
def Kind.read (kind : Kind) (output : String) (files : List Path) : List Diagnostic :=
  match kind with
  | .esLint => Output.Results.read output
  | .tsLint => Output.Prose.read output
  | .coffeeLint => Output.Csv.read output
  | .cssLint => Output.Compact.read output files

end LintHub
