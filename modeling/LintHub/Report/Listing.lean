import LintHub.Config
import LintHub.Report.Text

/-!
# The list of linters

A table of the supported linters with a column that says which of them are enabled.
-/

namespace LintHub.Report.Listing

/-- A text filled up with blanks to a width; a longer one stays as it is. -/
def padded (width : Nat) (s : String) : String :=
  s ++ String.ofList (List.replicate (width - s.length) ' ')

/-- One row. -/
def row (name tool extensions marker enabled : String) : String :=
  padded 12 name ++ " " ++ padded 10 tool ++ " " ++ padded 24 extensions ++ " " ++
    padded 16 marker ++ " " ++ enabled

/-- The row of one linter. -/
def linterRow (config : Config) (k : Kind) : String :=
  row k.displayName k.tool (" ".intercalate (k.extensions.map fun e => "." ++ e)) k.marker
    (if config.isEnabled k then "yes" else "no")

/-- The whole list. -/
def render (config : Config) : String :=
  unlines <|
    ["Supported linters:", "", row "Name" "Tool" "Extensions" "Config file" "Enabled",
      String.ofList (List.replicate 72 '-')] ++
    Kind.all.map (linterRow config) ++
    ["", "Use --linters to run a subset, e.g.:", "  weblint check --linters eslint,csslint"]

end LintHub.Report.Listing
