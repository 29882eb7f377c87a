import LintHub.Proofs.FileGroups
import LintHub.Report

/-!
# The lines of a report

What a person reads in the text report and in the compact report is said here part by part,
without the functions that print it: how a position, a severity and a code are written, what the
lines of one diagnostic are, and what stands around them. Lines come one after another at three
levels: diagnostics of a file, files of a run, runs of a report (`Along`).

* `Text.isReport`: so reads the text report; each diagnostic of each run has one entry in it,
  below a header with its own file, and the last line counts the entries.
* `Compact.isReport`: so reads the compact report.
* `groupByFile_faithful`: what is in the groups of a run, and how the text report shows them.
-/

namespace LintHub

/-- How many of these diagnostics have a severity. -/
def countOf (severity : Severity) (ds : List Diagnostic) : Nat :=
  ds.countP (·.severity == severity)

/-- Counting run by run is counting all at once. -/
theorem countAll_eq (severity : Severity) (runs : List LintRun) :
    countAll severity runs = countOf severity (runs.flatMap (·.diagnostics)) := by
  induction runs with
  | nil => rfl
  | cons r rs ih =>
    rw [countAll, ih, List.flatMap_cons, countOf, countOf, List.countP_append]
    rfl

namespace Report

/-- What is said of the members of a list, one after another. -/
inductive Along {α β : Type} (Says : α → List β → Prop) : List α → List β → Prop
  | nil : Along Says [] []
  | cons {a : α} {as : List α} {said rest : List β} (first : Says a said)
    (others : Along Says as rest) : Along Says (a :: as) (said ++ rest)

theorem Along.flatMap {α β : Type} {Says : α → List β → Prop} {f : α → List β} {as : List α}
    (h : ∀ a ∈ as, Says a (f a)) : Along Says as (as.flatMap f) := by
  induction as with
  | nil => exact .nil
  | cons a as ih =>
    rw [List.flatMap_cons]
    exact .cons (h a (List.mem_cons_self ..)) (ih fun b hb => h b (List.mem_cons_of_mem _ hb))

/-- What is said is said of some member. -/
theorem Along.exists_of_mem {α β : Type} {Says : α → List β → Prop} {as : List α} {said : List β}
    (h : Along Says as said) {b : β} (hb : b ∈ said) :
    ∃ a ∈ as, ∃ part, Says a part ∧ b ∈ part := by
  induction h with
  | nil => cases hb
  | @cons a as part rest first _ ih =>
    rcases List.mem_append.1 hb with hb | hb
    · exact ⟨a, List.mem_cons_self .., part, first, hb⟩
    · obtain ⟨a', ha', part', hsays, hmem⟩ := ih hb
      exact ⟨a', List.mem_cons_of_mem _ ha', part', hsays, hmem⟩

/-- A code as it follows a severity. -/
inductive IsCode : Option String → String → Prop
  | none : IsCode none ""
  | some (code : String) : IsCode (some code) (" [" ++ code ++ "]")

theorem isCode_codeSuffix (d : Diagnostic) : IsCode d.code d.codeSuffix := by
  unfold Diagnostic.codeSuffix
  cases d.code with
  | none => exact .none
  | some c => exact .some c

/-- A block of the text report: what one linter reported on one file. -/
structure Block where
  linter : Kind
  group : FileGroup

namespace Text

/-- A position as people read it: it counts from one, in 32 bits, or there is none. -/
inductive IsPosition : Option UInt32 → String → Prop
  | none : IsPosition none "-"
  | some (n : UInt32) : IsPosition (some n) (toString ((n.toNat + 1) % UInt32.size))

/-- The word for a severity, in red or in yellow. -/
inductive IsSeverity : Severity → String → Prop
  | error : IsSeverity .error "\x1b[31merror\x1b[0m"
  | warning : IsSeverity .warning "\x1b[33mwarning\x1b[0m"

/-- The line that says where a rule is explained, if that is known. -/
inductive IsHelp : Option String → List String → Prop
  | none : IsHelp none []
  | some (url : String) : IsHelp (some url) ["    = help: " ++ url]

/-- The lines of one diagnostic. -/
inductive IsEntry (d : Diagnostic) : List String → Prop
  | entry {line column severity code : String} {help : List String} (hline : IsPosition d.line line)
    (hcolumn : IsPosition d.column column) (hseverity : IsSeverity d.severity severity)
    (hcode : IsCode d.code code) (hhelp : IsHelp d.helpUrl help) :
    IsEntry d (("  " ++ line ++ ":" ++ column ++ "  " ++ severity ++ code ++ ": " ++ d.message) ::
      help)

/-- The lines of a block: a header with the file and the linter, an entry for each diagnostic, and
an empty line. -/
inductive IsBlock (b : Block) : List String → Prop
  | block {lines : List String} (hentries : Along IsEntry b.group.diagnostics lines) :
    IsBlock b ((b.group.file.text ++ " (" ++ b.linter.displayName ++ ")") :: (lines ++ [""]))

/-- The blocks of a run: one for each of its files. -/
structure AreBlocks (r : LintRun) (bs : List Block) : Prop where
  grouped : IsGroupedByFile r.diagnostics (bs.map (·.group))
  linter : ∀ b ∈ bs, b.linter = r.linter

/-- The diagnostics in blocks. -/
def shown (bs : List Block) : List Diagnostic := bs.flatMap (·.group.diagnostics)

/-- The last line counts the diagnostics shown; its colour is that of the gravest. -/
def IsTotals (runs : List LintRun) (ds : List Diagnostic) (line : String) : Prop :=
  line = (if 0 < countOf .error ds then "\x1b[31m"
      else if 0 < countOf .warning ds then "\x1b[33m" else "\x1b[32m") ++
    "Found " ++ toString (countOf .error ds) ++ " error(s), " ++
    toString (countOf .warning ds) ++ " warning(s) in " ++
    toString (Summary.ofRuns runs).files ++ " file(s) with " ++ toString runs.length ++
    " linter(s)" ++ "\x1b[0m"

/-- **How a text report reads**: the blocks of the runs one after another, and a line of totals. -/
def IsReport (runs : List LintRun) (report : String) : Prop :=
  ∃ bs lines totals, Along AreBlocks runs bs ∧ Along IsBlock bs lines ∧
    IsTotals runs (shown bs) totals ∧
    report = String.join ((lines ++ [totals]).map (· ++ "\n"))

/-- **Each diagnostic has one place** in the blocks. -/
theorem shown_perm {runs : List LintRun} {bs : List Block} (h : Along AreBlocks runs bs) :
    (shown bs).Perm (runs.flatMap (·.diagnostics)) := by
  induction h with
  | nil => exact .nil
  | @cons r rs bs rest first _ ih =>
    have hfirst : (shown bs).Perm r.diagnostics := by
      have hkept := first.grouped.kept
      rwa [List.flatMap_map] at hkept
    rw [List.flatMap_cons, shown, List.flatMap_append]
    exact hfirst.append ih

/-- **Each diagnostic is below its own file.** -/
theorem same_of_mem {runs : List LintRun} {bs : List Block} (h : Along AreBlocks runs bs)
    {b : Block} (hb : b ∈ bs) {d : Diagnostic} (hd : d ∈ b.group.diagnostics) :
    d.file.Same b.group.file := by
  obtain ⟨r, -, part, hpart, hmem⟩ := h.exists_of_mem hb
  rw [hpart.grouped.held b.group (List.mem_map_of_mem hmem)] at hd
  exact of_decide_eq_true (List.mem_filter.1 hd).2

theorem isPosition_position (n : Option UInt32) : IsPosition n (position n) := by
  cases n with
  | none => exact .none
  | some n =>
    have hnext : position (some n) = toString ((n.toNat + 1) % UInt32.size) :=
      congrArg toString (UInt32.toNat_add n 1)
    rw [hnext]
    exact .some n

theorem isSeverity_severityMark (s : Severity) : IsSeverity s (severityMark s) := by
  cases s with
  | error =>
    rw [show severityMark .error = "\x1b[31merror\x1b[0m" by decide]
    exact .error
  | warning =>
    rw [show severityMark .warning = "\x1b[33mwarning\x1b[0m" by decide]
    exact .warning

theorem isEntry_diagnosticLines (d : Diagnostic) : IsEntry d (diagnosticLines d) := by
  have hhelp : IsHelp d.helpUrl (d.helpUrl.toList.map fun url => "    = help: " ++ url) := by
    cases d.helpUrl with
    | none => exact .none
    | some url => exact .some url
  exact .entry (isPosition_position d.line) (isPosition_position d.column)
    (isSeverity_severityMark d.severity) (isCode_codeSuffix d) hhelp

theorem isBlock_groupLines (linter : Kind) (g : FileGroup) :
    IsBlock ⟨linter, g⟩ (groupLines linter g) := by
  exact .block (.flatMap fun d _ => isEntry_diagnosticLines d)

/-- The blocks of a run as it groups its diagnostics. -/
def blocksOf (r : LintRun) : List Block := r.byFile.map (Block.mk r.linter)

theorem areBlocks_blocksOf (r : LintRun) : AreBlocks r (blocksOf r) := by
  refine ⟨?_, ?_⟩
  · have hsame : (blocksOf r).map (·.group) = groupByFile r.diagnostics := by
      simp [blocksOf, LintRun.byFile, Function.comp_def]
    rw [hsame, groupByFile_eq]
    exact isGroupedByFile_groupsOf r.diagnostics
  · intro b hb
    obtain ⟨g, -, rfl⟩ := List.mem_map.1 hb
    rfl

theorem code_totalsColour (s : Summary) :
    (totalsColour s).code = if 0 < s.errors then "\x1b[31m"
      else if 0 < s.warnings then "\x1b[33m" else "\x1b[32m" := by
  unfold totalsColour
  split
  · rfl
  · split <;> rfl

theorem isTotals_totals {runs : List LintRun} {bs : List Block} (h : Along AreBlocks runs bs) :
    IsTotals runs (shown bs) (totals (Summary.ofRuns runs)) := by
  have hcount (severity : Severity) : countOf severity (shown bs) = countAll severity runs := by
    rw [countAll_eq]
    exact (shown_perm h).countP_eq _
  unfold IsTotals totals
  rw [hcount, hcount, code_totalsColour]
  rfl

/-- **The text report reads so.** -/
theorem isReport (runs : List LintRun) : IsReport runs (render .text runs) := by
  have hblocks : Along AreBlocks runs (runs.flatMap blocksOf) :=
    .flatMap fun r _ => areBlocks_blocksOf r
  have hlines : Along IsBlock (runs.flatMap blocksOf) (runs.flatMap runLines) := by
    have heq : runs.flatMap runLines =
        (runs.flatMap blocksOf).flatMap fun b => groupLines b.linter b.group := by
      rw [List.flatMap_assoc]
      congr 1
      funext r
      rw [runLines, blocksOf, List.flatMap_map]
    rw [heq]
    exact .flatMap fun b _ => isBlock_groupLines b.linter b.group
  exact ⟨_, _, _, hblocks, hlines, isTotals_totals hblocks, rfl⟩

end Text

namespace Compact

/-- A position as it follows the file: a column only behind a line, and both count from one. -/
inductive IsPlace : Option UInt32 → Option UInt32 → String → Prop
  | whole (column : Option UInt32) : IsPlace none column ""
  | line (l : UInt32) : IsPlace (some l) none (":" ++ toString (l.toNat + 1))
  | column (l c : UInt32) :
    IsPlace (some l) (some c) (":" ++ toString (l.toNat + 1) ++ ":" ++ toString (c.toNat + 1))

inductive IsSeverity : Severity → String → Prop
  | error : IsSeverity .error "error"
  | warning : IsSeverity .warning "warning"

/-- The entry of one diagnostic. -/
inductive IsEntry (d : Diagnostic) : String → Prop
  | entry {place severity code : String} (hplace : IsPlace d.line d.column place)
    (hseverity : IsSeverity d.severity severity) (hcode : IsCode d.code code) :
    IsEntry d (d.file.text ++ place ++ ": " ++ severity ++ code ++
      " (" ++ d.linter.displayName ++ ") " ++ d.message)

/-- **How a compact report reads**: one entry for each diagnostic, in the order of the runs. -/
def IsReport (runs : List LintRun) (report : String) : Prop :=
  ∃ entries, List.Forall₂ IsEntry (runs.flatMap (·.diagnostics)) entries ∧
    report = String.join (entries.map (· ++ "\n"))

theorem isEntry_display (d : Diagnostic) : IsEntry d d.display := by
  have hplace : IsPlace d.line d.column d.positionSuffix := by
    unfold Diagnostic.positionSuffix
    cases d.line with
    | none => exact .whole d.column
    | some l =>
      cases d.column with
      | none =>
        simp only [String.append_empty]
        exact .line l
      | some c =>
        simp only [← String.append_assoc]
        exact .column l c
  have hseverity : IsSeverity d.severity d.severity.word := by
    cases d.severity with
    | error => exact .error
    | warning => exact .warning
  exact .entry hplace hseverity (isCode_codeSuffix d)

/-- **The compact report reads so.** -/
theorem isReport (runs : List LintRun) : IsReport runs (render .compact runs) := by
  refine ⟨reportLines runs, ?_, rfl⟩
  unfold reportLines diagnostics
  exact List.forall₂_map_right_iff.2 (List.forall₂_same.2 fun d _ => isEntry_display d)

end Compact
end Report

/-- **Grouping by file** gives each file with its diagnostics, and the index is in step with the
groups after any number of them. So the text report shows run by run each file under a header of
its own, and below it an entry for each diagnostic on it. -/
theorem groupByFile_faithful (ds : List Diagnostic) (runs : List LintRun) :
    (groupByFile ds = groupsOf ds ∧ IsGroupedByFile ds (groupByFile ds)) ∧
    (∀ n key i, ((ds.take n).foldl GroupIndex.add .empty).places.lookup key = some i ↔
      ∃ g, ((ds.take n).foldl GroupIndex.add .empty).groups[i]? = some g ∧
        g.file.components = key) ∧
    ∃ bs lines totals, Report.Along Report.Text.AreBlocks runs bs ∧
      Report.Along Report.Text.IsBlock bs lines ∧
      Report.Text.IsTotals runs (Report.Text.shown bs) totals ∧
      Report.render .text runs = String.join ((lines ++ [totals]).map (· ++ "\n")) ∧
      (Report.Text.shown bs).Perm (runs.flatMap (·.diagnostics)) ∧
      ∀ b ∈ bs, ∀ d ∈ b.group.diagnostics, d.file.Same b.group.file := by
  refine ⟨⟨groupByFile_eq ds, ?_⟩, fun n => GroupIndex.lookup_foldl_iff (ds.take n), ?_⟩
  · rw [groupByFile_eq]
    exact isGroupedByFile_groupsOf ds
  · obtain ⟨bs, lines, totals, hblocks, hlines, htotals, hreport⟩ := Report.Text.isReport runs
    exact ⟨bs, lines, totals, hblocks, hlines, htotals, hreport, Report.Text.shown_perm hblocks,
      fun b hb d hd => Report.Text.same_of_mem hblocks hb hd⟩

end LintHub
