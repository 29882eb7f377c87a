import LintHub.Proofs.Report.Document
import LintHub.Proofs.Report.Lines

/-!
# What a report shows

Each report shows all diagnostics of all runs, and the errors and warnings that it counts are
those it shows: the text report above its line of totals, and the JSON report in the runs that are
read from it again. The compact report counts nothing.

* `shows_render`: every report shows all runs.
* `print_of_unprintable`, `print_of_not_unprintable`: which reports are printed.
-/

namespace LintHub.Report

/-- A JSON report gives these runs back, and its summary says how many errors and how many
warnings are among their diagnostics. -/
def ShowsJson (report : String) (runs : List LintRun) : Prop :=
  ∃ items summary counts,
    Json.parse? report = some (.record [("runs", .array items), ("summary", summary)]) ∧
    items.mapM LintRun.ofJson? = some runs ∧
    Summary.ofJson? summary = some counts ∧
    counts.errors = countOf .error (Compact.diagnostics runs) ∧
    counts.warnings = countOf .warning (Compact.diagnostics runs)

/-- A report shows all of these runs, and the counts that it shows are theirs. -/
def Shows (format : Format) (report : String) (runs : List LintRun) : Prop :=
  match format with
  | .text => Text.IsReport runs report
  | .json => ShowsJson report runs
  | .compact => Compact.IsReport runs report

theorem showsJson_render (runs : List LintRun) : ShowsJson (render .json runs) runs := by
  have hsummary := Summary.ofJson?_toJson (Summary.ofRuns runs)
  exact ⟨_, _, _, Document.parse?_render runs, Document.mapM_ofJson?_toJson runs, hsummary,
    countAll_eq .error runs, countAll_eq .warning runs⟩

/-- **Every report shows all runs**, with their counts. -/
theorem shows_render (format : Format) (runs : List LintRun) :
    Shows format (render format runs) runs := by
  cases format with
  | text => exact Text.isReport runs
  | json => exact showsJson_render runs
  | compact => exact Compact.isReport runs

section Print

variable {isMalformed : Path → Bool} {format : Format} {runs : List LintRun}

/-- A report is in JSON, and the path of some file is no Unicode. -/
def Unprintable (isMalformed : Path → Bool) (format : Format) (runs : List LintRun) : Prop :=
  format = .json ∧ ∃ r ∈ runs, ∃ f ∈ r.files, isMalformed f = true

theorem isPrintable_eq_false_iff :
    isPrintable isMalformed format runs = false ↔ Unprintable isMalformed format runs := by
  unfold isPrintable Unprintable
  simp only [Bool.or_eq_false_iff, bne_eq_false_iff_eq, List.all_eq_false, Bool.not_eq_true,
    Bool.not_eq_false']

theorem print_of_unprintable (h : Unprintable isMalformed format runs) :
    print isMalformed format runs = .error malformedPath := by
  unfold print
  rw [isPrintable_eq_false_iff.2 h]
  rfl

/-- **Any other report is printed** in full. -/
theorem print_of_not_unprintable (h : ¬ Unprintable isMalformed format runs) :
    print isMalformed format runs = .ok (render format runs) := by
  have hprintable : isPrintable isMalformed format runs = true := by
    rw [← Bool.not_eq_false]
    exact fun hfalse => h (isPrintable_eq_false_iff.1 hfalse)
  unfold print
  rw [if_pos hprintable]

end Print

end LintHub.Report
