import LintHub.Proofs.Exchange
import LintHub.Report

/-!
# The JSON report read back

The JSON report is one document with nothing behind it but the end of its line. The runs in it
are read back as they were, whatever texts they hold, and the summary beside them is theirs.

* `parse?_render`: the document.
* `decodes`: the runs and the summary.
-/

namespace LintHub.Report.Document

open Json

theorem isText_toJson (runs : List LintRun) : (toJson runs).IsText := by
  refine .record fun m hm => ?_
  simp only [List.mem_cons, List.not_mem_nil, or_false] at hm
  rcases hm with rfl | rfl
  · refine .array fun v hv => ?_
    obtain ⟨r, -, rfl⟩ := List.mem_map.1 hv
    exact r.isText_toJson
  · exact (Summary.ofRuns runs).isText_toJson

/-- The report is one document. -/
theorem parse?_render (runs : List LintRun) :
    parse? (render .json runs) = some (toJson runs) := by
  refine parse?_pretty (isText_toJson runs) "\n" ?_ ?_
  · intro c hc
    obtain rfl := List.mem_singleton.1 hc
    rfl
  · exact isDelimited_cons rfl rfl []

/-- The runs are read back. -/
theorem mapM_ofJson?_toJson (runs : List LintRun) :
    (runs.map LintRun.toJson).mapM LintRun.ofJson? = some runs :=
  mapM_map_of_inverse LintRun.ofJson?_toJson runs

/-- **The JSON report is faithful.** It is one object with runs and a summary: the runs are read
back as they were, in their order, and the summary is read back as the one of these runs. -/
theorem decodes (runs : List LintRun) :
    ∃ items summary,
      parse? (render .json runs) =
        some (.record [("runs", .array items), ("summary", summary)]) ∧
      items.mapM LintRun.ofJson? = some runs ∧
      Summary.ofJson? summary = some (Summary.ofRuns runs) := by
  have hsummary := Summary.ofJson?_toJson (Summary.ofRuns runs)
  exact ⟨_, _, parse?_render runs, mapM_ofJson?_toJson runs, hsummary⟩

end LintHub.Report.Document
