import LintHub.Proofs.Command.Status
import LintHub.Proofs.Counts
import LintHub.Proofs.Output.CompactGrammar
import LintHub.Proofs.Output.CsvGrammar
import LintHub.Proofs.Output.ProseGrammar
import LintHub.Proofs.Output.ResultsGrammar

/-!
# Linters that say nothing

A linter that finds something ends as one that breaks off does, with a status other than zero, so
the status of a linter is not looked at. A linter that cannot be started is an error; one that
breaks off behind its start is noticed by what it writes, and not at all if it is silent: if it
writes nothing, or something to standard output of which its format reads nothing. What it
complains of on standard error is then dropped.

* `Output.read_eq_nil_iff`: the outputs of which a format reads nothing.
* `Linter.run_eq_nil_iff`: the outputs that leave a run without diagnostics.
* `Command.clean_iff_silent`: the checks that end with status zero and nothing found.
-/

namespace LintHub

variable {σ : Type}

namespace Output

open Text

/-- A standard output of which a linter's format reads nothing. -/
def SaysNothing : Kind → String → Prop
  | .esLint, output => ∀ rs, Results.Decodes output rs → ∀ r ∈ rs, r.messages = []
  | .tsLint, output => ∀ l ∈ lines output.toList, ∀ p, ¬ Prose.IsSplit (trim l) p
  | .coffeeLint, output => ∀ l ∈ lines output.toList, ∀ p, ¬ Csv.IsSplit (trim l) p
  | .cssLint, output => ∀ l ∈ lines output.toList, ∀ p, ¬ Compact.IsPlaced l p

/-- A linter is silent: it writes nothing at all, or nothing that its format reads. -/
def IsSilent (kind : Kind) (o : Output) : Prop :=
  if o.stdout = "" then o.stderr = "" else SaysNothing kind o.stdout

/-- **Nothing is read** from the outputs that say nothing. -/
theorem read_eq_nil_iff {kind : Kind} {output : String} {files : List Path} (hne : files ≠ []) :
    kind.read output files = [] ↔ SaysNothing kind output := by
  cases kind with
  | esLint =>
    unfold Kind.read Results.read SaysNothing
    simp only [← Results.results?_eq_some_iff]
    cases Results.results? output with
    | none => simp
    | some rs => simp [Results.FileResult.diagnostics, List.flatMap_eq_nil_iff]
  | tsLint =>
    unfold Kind.read Prose.read SaysNothing
    simp only [List.filterMap_eq_nil_iff, Prose.diagnostic?_eq_none_iff]
  | coffeeLint =>
    unfold Kind.read Csv.read SaysNothing
    simp only [List.filterMap_eq_nil_iff, Csv.diagnostic?_eq_none_iff]
  | cssLint =>
    obtain ⟨first, rest, rfl⟩ := List.exists_cons_of_ne_nil hne
    unfold Kind.read Compact.read SaysNothing
    simp only [List.filterMap_eq_nil_iff, Compact.diagnostic?_eq_none_iff]

end Output

namespace Linter

open Output

variable {l : Linter} {c : LintContext} {run : Runner σ} {files : List Path} {s : Session σ}

theorem reportOf_eq_nil_iff {kind : Kind} {o : Output} (hne : files ≠ []) :
    reportOf kind files o = [] ↔ IsSilent kind o := by
  unfold reportOf IsSilent
  by_cases hout : o.stdout = ""
  · obtain ⟨first, rest, rfl⟩ := List.exists_cons_of_ne_nil hne
    rw [if_neg (not_not.2 hout), if_pos hout]
    by_cases herr : o.stderr = "" <;> simp [herr]
  · rw [if_pos hout, if_neg hout]
    exact read_eq_nil_iff hne

/-- **A linter that is started** fails if the start does, and else it leaves a run, without
diagnostics just if it was silent; with what status it ended is not asked. -/
theorem run_eq_nil_iff (c : LintContext) (run : Runner σ) (hdue : l.Due s.tree files) :
    ∃ i, l.StartsOn c s.tree files i ∧
      (∀ e, (run i s.runner s.tree).1 = .error e → (l.run c run files s).1 = .error e) ∧
      ∀ o, (run i s.runner s.tree).1 = .ok o → ∃ r, (l.run c run files s).1 = .ok r ∧
        r.linter = l.kind ∧ r.files = files ∧ (r.diagnostics = [] ↔ IsSilent l.kind o) := by
  obtain ⟨i, hstart, -, -, -, hanswer⟩ := run_of_due c run hdue
  refine ⟨i, hstart, fun e he => ?_, fun o ho => ?_⟩
  · rw [hanswer, he]
    rfl
  · refine ⟨⟨l.kind, files, reportOf l.kind files o⟩, ?_, rfl, rfl, reportOf_eq_nil_iff hdue.2.1⟩
    rw [hanswer, ho]
    rfl

end Linter

namespace Command

open Check

variable {h : Host} {runner : Runner σ} {args : List String} {s : Session σ} {a : Arguments}
  {paths : List Path} {format : Report.Format} {list : Option String} {c : Config}
  {files : List Path}

/-- A check has found nothing. -/
def Check.IsClean (runs : List LintRun) : Prop := ∀ r ∈ runs, r.diagnostics = []

/-- Nothing is found just if nothing is counted. -/
theorem Check.isClean_iff {runs : List LintRun} :
    IsClean runs ↔ (Summary.ofRuns runs).errors = 0 ∧ (Summary.ofRuns runs).warnings = 0 := by
  rw [← Nat.add_eq_zero_iff, Summary.errors_add_warnings, List.length_eq_zero_iff,
    List.flatMap_eq_nil_iff]
  rfl

theorem Check.IsClean.not_hasError {runs : List LintRun} (h : IsClean runs) : ¬ HasError runs := by
  rintro ⟨r, hr, d, hd, -⟩
  rw [h r hr] at hd
  cases hd

/-- The runs of a check are those of linters that are switched on, and each has its files. -/
theorem Check.switchedOn_of_lint {runs : List LintRun}
    (hruns : ((Checker.ofConfig h (configured c list)).lint runner
      (select (configured c list) files) s).1 = .ok runs) {r : LintRun} (hr : r ∈ runs) :
    ((Checker.ofConfig h (configured c list)).linter r.linter).enabled = true ∧ r.files ≠ [] := by
  have hgroup : Batch.mk r.linter r.files ∈ groupFiles (select (configured c list) files) := by
    rw [← Checker.groups_of_lint hruns]
    exact List.mem_map_of_mem hr
  refine ⟨?_, (isGrouping_groupFiles _).filled _ hgroup⟩
  rw [linter_ofConfig]
  rw [select_configured] at hgroup
  exact (isEnabled_configured c list r.linter).trans (isRequested_of_mem_groupFiles hgroup)

/-- A run of a check has no diagnostic just if all its files are there and its linter was silent. -/
theorem Check.answered_eq_nil_iff {runs : List LintRun}
    (hruns : ((Checker.ofConfig h (configured c list)).lint runner
      (select (configured c list) files) s).1 = .ok runs) {r : LintRun} (hr : r ∈ runs)
    {s₁ : Session σ} (hanswer : (Checker.ofConfig h (configured c list)).Answers runner r s₁) :
    ((∃ f ∈ r.files, s₁.tree.isFile f = false) → r.diagnostics ≠ []) ∧
    ((∀ f ∈ r.files, s₁.tree.isFile f = true) → ∃ i o,
      ((Checker.ofConfig h (configured c list)).linter r.linter).StartsOn
        (Checker.ofConfig h (configured c list)).context s₁.tree r.files i ∧
      (runner i s₁.runner s₁.tree).1 = .ok o ∧
      (r.diagnostics = [] ↔ Output.IsSilent r.linter o)) := by
  obtain ⟨henabled, hne⟩ := switchedOn_of_lint hruns hr
  constructor
  · intro hmissing
    obtain ⟨d, hd, -⟩ := Linter.exists_error_of_missing henabled hanswer hmissing
    exact List.ne_nil_of_mem hd
  · intro hall
    obtain ⟨i, o, hstart, ho, hrun⟩ := Linter.exists_output_of_due ⟨henabled, hne, hall⟩ hanswer
    have hds := congrArg LintRun.diagnostics hrun
    rw [Checker.linter_kind] at hds
    refine ⟨i, o, hstart, ho, ?_⟩
    rw [hds]
    exact Linter.reportOf_eq_nil_iff hne

/-- **Only silent linters pass for clean ones.** Whatever the runner answers, a linter that has
something to do and does not start is an error; one that starts leaves a run whatever its status,
and the run has a diagnostic unless the linter was silent. A check with status zero has runs; the
status is zero and nothing is counted just if their report is printed and no run has a diagnostic:
all their files are there, and all their linters were silent. -/
theorem clean_iff_silent (runner : Runner σ) :
    (∀ (l : Linter) (c : LintContext) (files : List Path) (s : Session σ), l.Due s.tree files →
      ∃ i, l.StartsOn c s.tree files i ∧
        (∀ e, (runner i s.runner s.tree).1 = .error e → (l.run c runner files s).1 = .error e) ∧
        ∀ o, (runner i s.runner s.tree).1 = .ok o → ∃ r, (l.run c runner files s).1 = .ok r ∧
          r.linter = l.kind ∧ r.files = files ∧
          (r.diagnostics = [] ↔ Output.IsSilent l.kind o)) ∧
    ∀ (h : Host) (args : List String) (s : Session σ) (a : Arguments) (paths : List Path)
      (format : Report.Format) (list : Option String) (c : Config) (files : List Path),
      Arguments.parse h.configFile args = .ok a → a.request = .check paths format list →
      (ConfigSource.resolve h s.tree (configDir s.tree paths) a.config).load s.tree = .ok c →
      Check.collect s.tree (Walk.files h s.tree) (given s.tree paths) = .ok files →
      let checker := Checker.ofConfig h (configured c list)
      let answer := checker.lint runner (select (configured c list) files) { s with journal := [] }
      let out := run h runner args s
      (out.1.status = 0 → ∃ runs, answer.1 = .ok runs) ∧
      ∀ runs, answer.1 = .ok runs →
        (¬ Report.Unprintable h.isMalformed format runs →
          out.1.stdout = Report.render format runs) ∧
        (out.1.status = 0 ∧ (Summary.ofRuns runs).errors = 0 ∧ (Summary.ofRuns runs).warnings = 0 ↔
          IsClean runs ∧ ¬ Report.Unprintable h.isMalformed format runs) ∧
        ∀ r ∈ runs, (∃ s₁ : Session σ, checker.Answers runner r s₁) ∧
          ∀ s₁ : Session σ, checker.Answers runner r s₁ →
            ((∃ f ∈ r.files, s₁.tree.isFile f = false) → r.diagnostics ≠ []) ∧
            ((∀ f ∈ r.files, s₁.tree.isFile f = true) → ∃ i o,
              (checker.linter r.linter).StartsOn checker.context s₁.tree r.files i ∧
              (runner i s₁.runner s₁.tree).1 = .ok o ∧
              (r.diagnostics = [] ↔ Output.IsSilent r.linter o)) := by
  refine ⟨fun l c files s hdue => Linter.run_eq_nil_iff c runner hdue, ?_⟩
  intro h args s a paths format list c files hargs hrequest hload hfiles checker answer out
  obtain ⟨-, notices, hstatus, hstdout⟩ := run_check runner hargs hrequest hload hfiles
  change out.1.status = (outcome h format answer.1 notices).status at hstatus
  change out.1.stdout = (outcome h format answer.1 notices).stdout at hstdout
  refine ⟨fun hzero => ?_, fun runs hruns => ⟨fun hgood => ?_, ?_, fun r hr => ?_⟩⟩
  · obtain ⟨runs, hruns, -⟩ := status_eq_zero_iff.1 (hstatus.symm.trans hzero)
    exact ⟨runs, hruns⟩
  · rw [hstdout, hruns]
    exact (outcome_of_not_unprintable hgood notices).2
  · rw [← isClean_iff, hstatus, status_eq_zero_iff, hruns]
    constructor
    · rintro ⟨⟨_, heq, -, hgood⟩, hclean⟩
      cases heq
      exact ⟨hclean, hgood⟩
    · rintro ⟨hclean, hgood⟩
      exact ⟨⟨runs, rfl, hclean.not_hasError, hgood⟩, hclean⟩
  · exact ⟨Checker.answered_of_lint hruns r hr, fun s₁ => answered_eq_nil_iff hruns hr⟩

/-- Answers every start as a process that is killed, with nothing but a complaint. -/
def killed : Runner Unit := fun _ u t => (.ok ⟨"", "out of memory", none⟩, u, t)

/-- Answers every start as a process that breaks off, with a text that is no JSON. -/
def breakingOff : Runner Unit := fun _ u t =>
  (.ok ⟨"Oops! Something went wrong!", "TypeError: undefined", some 2⟩, u, t)

/-- A directory with a script and a configuration. -/
def scripted : FileTree := settled.put ["a.js"] (.file [] 0)

theorem clean_iff_silent_killed :
    let s : Session Unit := ⟨scripted, (), [], []⟩
    let l : Linter := ⟨.esLint, true⟩
    let c : LintContext := ⟨⟨⟨"/env"⟩, 0⟩, none, none⟩
    let d : Diagnostic := .ofFile .esLint ⟨"/a.js"⟩ .error "out of memory"
    (∃ r, (l.run c killed [⟨"/a.js"⟩] s).1 = .ok r ∧ r.diagnostics ≠ []) ∧
      ∃ out, out = (run default killed ["check", "a.js"] s).1 ∧
        out.stdout = Report.render .text [⟨.esLint, [⟨"/a.js"⟩], [d]⟩] ∧
        ¬ (out.status = 0 ∧ (Summary.ofRuns [⟨.esLint, [⟨"/a.js"⟩], [d]⟩]).errors = 0 ∧
          (Summary.ofRuns [⟨.esLint, [⟨"/a.js"⟩], [d]⟩]).warnings = 0) := by
  intro s l c d
  obtain ⟨hstarted, hcheck⟩ := clean_iff_silent killed
  constructor
  · have hdue : l.Due s.tree [⟨"/a.js"⟩] := ⟨rfl, by decide, by decide +kernel⟩
    obtain ⟨i, -, -, hanswer⟩ := hstarted l c [⟨"/a.js"⟩] s hdue
    obtain ⟨r, hr, -, -, hiff⟩ := hanswer ⟨"", "out of memory", none⟩ rfl
    -- a complaint is something
    have hloud : ¬ Output.IsSilent l.kind ⟨"", "out of memory", none⟩ := by
      unfold Output.IsSilent
      rw [if_pos rfl]
      decide
    exact ⟨r, hr, fun hnil => hloud (hiff.1 hnil)⟩
  · let cfg : Config := { environment := { execDir := some ⟨"/env"⟩, minModules := 0 } }
    have hargs : Arguments.parse (default : Host).configFile ["check", "a.js"] =
        .ok ⟨false, none, .check [⟨"a.js"⟩] .text none⟩ := by decide +kernel
    have hload : (ConfigSource.resolve default s.tree (configDir s.tree [⟨"a.js"⟩]) none).load
        s.tree = .ok cfg := by decide +kernel
    have hfiles : Check.collect s.tree (Walk.files default s.tree) (given s.tree [⟨"a.js"⟩]) =
        .ok [⟨"/a.js"⟩] := by decide +kernel
    have hruns : ((Checker.ofConfig default (configured cfg none)).lint killed
        (select (configured cfg none) [⟨"/a.js"⟩]) { s with journal := [] }).1 =
        .ok [⟨.esLint, [⟨"/a.js"⟩], [d]⟩] := by decide +kernel
    obtain ⟨-, hok⟩ := hcheck default _ s _ _ _ _ cfg _ hargs rfl hload hfiles
    obtain ⟨hreport, hclean, -⟩ := hok _ hruns
    -- only JSON cannot write every path
    have hgood : ¬ Report.Unprintable (default : Host).isMalformed .text
        [⟨.esLint, [⟨"/a.js"⟩], [d]⟩] := fun hbad => nomatch hbad.1
    exact ⟨_, rfl, hreport hgood,
      fun h => absurd ((hclean.1 h).1 _ (List.mem_singleton_self _)) (by decide)⟩

/-- A linter that breaks off passes for a clean one: its text is no JSON, and its complaint, like
its status, is dropped. -/
theorem clean_though_broken_off :
    let s : Session Unit := ⟨scripted, (), [], []⟩
    let l : Linter := ⟨.esLint, true⟩
    let c : LintContext := ⟨⟨⟨"/env"⟩, 0⟩, none, none⟩
    l.Due s.tree [⟨"/a.js"⟩] ∧
      (∀ i, ∃ o, (breakingOff i s.runner s.tree).1 = .ok o ∧ o.isSuccess = false) ∧
      (l.run c breakingOff [⟨"/a.js"⟩] s).1 = .ok ⟨.esLint, [⟨"/a.js"⟩], []⟩ ∧
      (run default breakingOff ["check", "a.js"] s).1.status = 0 ∧
      (run default breakingOff ["check", "a.js", "--format", "compact"] s).1.stdout = "" := by
  refine ⟨⟨rfl, by decide, by decide +kernel⟩, fun i => ⟨_, rfl, rfl⟩, ?_, ?_, ?_⟩
  all_goals decide +kernel

end Command
end LintHub
