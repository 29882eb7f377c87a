import LintHub.Command
import LintHub.Proofs.Command.Selection
import LintHub.Proofs.Report.Blocks

/-!
# The status of a check

A check whose configuration loads and whose files can be collected ends as `lint` answers: with
status 2 and nothing on standard output if that fails, else with the whole report and a status
that says whether there is an error in it. The exception is a report in JSON with a path that is
no Unicode: it is not printed, and the status is 1 whatever was found.

* `Check.status_eq_two_iff`, `Check.status_eq_one_iff`, `Check.status_eq_zero_iff`: what each
  status means.
* `run_check`: a command line that asks for a check.
* `run_status`: how the program ends.
* `unprinted_though_clean`: a check that finds nothing and fails.
-/

namespace LintHub

variable {σ : Type}

namespace Linter

variable {l : Linter} {c : LintContext} {run : Runner σ} {files : List Path} {s : Session σ}
  {r : LintRun}

/-- A missing file is an error. -/
theorem exists_error_of_missing (hl : l.enabled = true) (h : (l.run c run files s).1 = .ok r)
    (hmissing : ∃ f ∈ files, s.tree.isFile f = false) :
    ∃ d ∈ r.diagnostics, d.severity = .error := by
  cases hfind : files.find? fun f => !s.tree.isFile f with
  | none =>
    obtain ⟨f, hf, hno⟩ := hmissing
    have hfile := List.find?_eq_none.1 hfind f hf
    simp [hno] at hfile
  | some missing =>
    rw [run_of_missing hl hfind] at h
    cases h
    exact ⟨_, List.mem_singleton_self _, rfl⟩

/-- If all files are there, the linter is started, and complaints alone are an error. -/
theorem exists_error_of_complaints (hdue : l.Due s.tree files)
    (h : (l.run c run files s).1 = .ok r) :
    ∃ i o, l.StartsOn c s.tree files i ∧ (run i s.runner s.tree).1 = .ok o ∧
      (o.stdout = "" → o.stderr ≠ "" → ∃ d ∈ r.diagnostics, d.severity = .error) := by
  obtain ⟨i, o, hstart, ho, rfl⟩ := exists_output_of_due hdue h
  refine ⟨i, o, hstart, ho, fun hout herr => ?_⟩
  obtain ⟨first, rest, rfl⟩ := List.exists_cons_of_ne_nil hdue.2.1
  refine ⟨Diagnostic.ofFile l.kind first .error o.stderr, ?_, rfl⟩
  simp [reportOf, hout, herr]

end Linter

namespace Command

namespace Check

/-- The directory whose configuration holds for a check: that of the first path. -/
def configDir (t : FileTree) (paths : List Path) : Path :=
  (paths.head?.map fun p => projectDir t ((Path.ofPlace t.here).join p)).getD (Path.ofPlace t.here)

/-- There is an error among the diagnostics of some run. -/
def HasError (runs : List LintRun) : Prop := ∃ r ∈ runs, ∃ d ∈ r.diagnostics, d.severity = .error

theorem hasError_iff {runs : List LintRun} :
    HasError runs ↔ 0 < (Summary.ofRuns runs).errors := by
  rw [show (Summary.ofRuns runs).errors = countAll .error runs from rfl, countAll_eq, countOf,
    List.countP_pos_iff]
  simp only [List.mem_flatMap, beq_iff_eq]
  constructor
  · rintro ⟨r, hr, d, hd, herror⟩
    exact ⟨d, ⟨r, hr, hd⟩, herror⟩
  · rintro ⟨d, ⟨r, hr, hd⟩, herror⟩
    exact ⟨r, hr, d, hd, herror⟩

section Status

variable {h : Host} {format : Report.Format} {answer : Except LintError (List LintRun)}
  {notices : List Notice}

theorem status_ok_of_hasError {runs : List LintRun} (h : HasError runs) :
    status (.ok runs) = 1 := by
  rw [status, if_pos (hasError_iff.1 h)]

theorem status_ok_of_not_hasError {runs : List LintRun} (h : ¬ HasError runs) :
    status (.ok runs) = 0 := by
  rw [status, if_neg fun hpos => h (hasError_iff.2 hpos)]

theorem status_ok (runs : List LintRun) :
    HasError runs ∧ status (.ok runs) = 1 ∨ ¬ HasError runs ∧ status (.ok runs) = 0 := by
  by_cases h : HasError runs
  · exact .inl ⟨h, status_ok_of_hasError h⟩
  · exact .inr ⟨h, status_ok_of_not_hasError h⟩

/-- A check whose report cannot be printed ends with status 1 and prints nothing. -/
theorem outcome_of_unprintable {runs : List LintRun}
    (hbad : Report.Unprintable h.isMalformed format runs) (notices : List Notice) :
    (outcome h format (.ok runs) notices).status = 1 ∧
      (outcome h format (.ok runs) notices).stdout = "" := by
  have heq : outcome h format (.ok runs) notices = .failed notices ⟨Report.malformedPath, []⟩ := by
    unfold outcome
    simp only [Report.print_of_unprintable hbad]
  rw [heq]
  exact ⟨rfl, rfl⟩

/-- Any other check that has runs prints their report. -/
theorem outcome_of_not_unprintable {runs : List LintRun}
    (hgood : ¬ Report.Unprintable h.isMalformed format runs) (notices : List Notice) :
    (outcome h format (.ok runs) notices).status = status (.ok runs) ∧
      (outcome h format (.ok runs) notices).stdout = Report.render format runs := by
  have heq : outcome h format (.ok runs) notices =
      ⟨status (.ok runs), Report.render format runs, notices⟩ := by
    unfold outcome
    simp only [Report.print_of_not_unprintable hgood]
  rw [heq]
  exact ⟨rfl, rfl⟩

/-- The ends of a check that has runs. -/
theorem outcome_ok (h : Host) (format : Report.Format) (runs : List LintRun)
    (notices : List Notice) :
    (HasError runs ∨ Report.Unprintable h.isMalformed format runs) ∧
        (outcome h format (.ok runs) notices).status = 1 ∨
      ¬ HasError runs ∧ ¬ Report.Unprintable h.isMalformed format runs ∧
        (outcome h format (.ok runs) notices).status = 0 := by
  by_cases hbad : Report.Unprintable h.isMalformed format runs
  · exact .inl ⟨.inr hbad, (outcome_of_unprintable hbad notices).1⟩
  · have hstatus := (outcome_of_not_unprintable hbad notices).1
    rcases status_ok runs with ⟨herror, hone⟩ | ⟨hno, hzero⟩
    · exact .inl ⟨.inl herror, hstatus.trans hone⟩
    · exact .inr ⟨hno, hbad, hstatus.trans hzero⟩

theorem status_eq_two_iff :
    (outcome h format answer notices).status = 2 ↔ ∃ e, answer = .error e := by
  cases answer with
  | error e => exact ⟨fun _ => ⟨e, rfl⟩, fun _ => rfl⟩
  | ok runs =>
    refine ⟨fun htwo => ?_, nofun⟩
    rcases outcome_ok h format runs notices with ⟨-, hone⟩ | ⟨-, -, hzero⟩ <;> omega

theorem status_eq_one_iff :
    (outcome h format answer notices).status = 1 ↔
      ∃ runs, answer = .ok runs ∧
        (HasError runs ∨ Report.Unprintable h.isMalformed format runs) := by
  cases answer with
  | error e => exact ⟨nofun, nofun⟩
  | ok runs =>
    rcases outcome_ok h format runs notices with ⟨hcause, hone⟩ | ⟨hno, hgood, hzero⟩
    · exact ⟨fun _ => ⟨runs, rfl, hcause⟩, fun _ => hone⟩
    · constructor
      · intro hother
        omega
      · rintro ⟨_, heq, herror | hbad⟩
        · cases heq
          exact absurd herror hno
        · cases heq
          exact absurd hbad hgood

theorem status_eq_zero_iff :
    (outcome h format answer notices).status = 0 ↔
      ∃ runs, answer = .ok runs ∧ ¬ HasError runs ∧
        ¬ Report.Unprintable h.isMalformed format runs := by
  cases answer with
  | error e => exact ⟨nofun, nofun⟩
  | ok runs =>
    rcases outcome_ok h format runs notices with ⟨hcause, hone⟩ | ⟨hno, hgood, hzero⟩
    · constructor
      · intro hother
        omega
      · rintro ⟨_, heq, hno, hgood⟩
        cases heq
        exact absurd hcause (not_or.2 ⟨hno, hgood⟩)
    · exact ⟨fun _ => ⟨runs, rfl, hno, hgood⟩, fun _ => hzero⟩

end Status

end Check

open Check

variable {h : Host} {runner : Runner σ} {args : List String} {s : Session σ} {a : Arguments}
  {paths : List Path} {format : Report.Format} {list : Option String} {c : Config}
  {files : List Path}

/-- A command line that asks for a check is one, if its configuration loads and its files can be
collected. -/
theorem run_check (runner : Runner σ) (hargs : Arguments.parse h.configFile args = .ok a)
    (hrequest : a.request = .check paths format list)
    (hload : (ConfigSource.resolve h s.tree (configDir s.tree paths) a.config).load s.tree =
      .ok c)
    (hfiles : Check.collect s.tree (Walk.files h s.tree) (given s.tree paths) = .ok files) :
    let answer := (Checker.ofConfig h (configured c list)).lint runner
      (select (configured c list) files) { s with journal := [] }
    let out := run h runner args s
    out.2 = answer.2 ∧
      ∃ notices, out.1.status = (outcome h format answer.1 notices).status ∧
        out.1.stdout = (outcome h format answer.1 notices).stdout := by
  intro answer out
  have hcheck : ∃ notices, Check.run h runner paths format list c s =
      (outcome h format answer.1 notices, answer.2) := by
    unfold given at hfiles
    unfold Check.run Check.runWith
    simp only [hfiles]
    exact ⟨_, rfl⟩
  obtain ⟨notices, hcheck⟩ := hcheck
  have hperform : perform h runner a s =
      ({ outcome h format answer.1 notices with
          stderr := sourceNotices (ConfigSource.resolve h s.tree (configDir s.tree paths) a.config)
            ++ (outcome h format answer.1 notices).stderr }, answer.2) := by
    unfold configDir at hload ⊢
    unfold perform
    simp only [hrequest]
    unfold withConfig
    simp only [hload, hcheck]
  have hrun : out = ({ (perform h runner a s).1 with
      stderr := (perform h runner a s).1.stderr.filter (Notice.isWritten a.verbose) },
      (perform h runner a s).2) := by
    show run h runner args s = _
    unfold run
    simp only [hargs]
  rw [hrun, hperform]
  exact ⟨rfl, notices, rfl, rfl⟩

/-- **The status of a check.** If the configuration loads and the files can be collected, the
status is 2 just if `lint` fails, and then nothing is printed. It is 1 just if there are runs with
an error among their diagnostics, or with a path that JSON cannot write where JSON is wanted; and
0 just if there are any other runs. But for such a path the report shows all runs, and the errors
and warnings that it counts are those it shows; with such a path nothing is printed. A linter that
answers where a file is missing makes the status 1, and so does one that only complains. -/
theorem run_status (runner : Runner σ) (hargs : Arguments.parse h.configFile args = .ok a)
    (hrequest : a.request = .check paths format list)
    (hload : (ConfigSource.resolve h s.tree (configDir s.tree paths) a.config).load s.tree =
      .ok c)
    (hfiles : Check.collect s.tree (Walk.files h s.tree) (given s.tree paths) = .ok files) :
    let checker := Checker.ofConfig h (configured c list)
    let answer := checker.lint runner (select (configured c list) files) { s with journal := [] }
    let out := run h runner args s
    out.2 = answer.2 ∧
    (out.1.status = 2 ↔ ∃ e, answer.1 = .error e) ∧
    (out.1.status = 1 ↔ ∃ runs, answer.1 = .ok runs ∧
      (HasError runs ∨ Report.Unprintable h.isMalformed format runs)) ∧
    (out.1.status = 0 ↔ ∃ runs, answer.1 = .ok runs ∧
      ¬ HasError runs ∧ ¬ Report.Unprintable h.isMalformed format runs) ∧
    (∀ e, answer.1 = .error e → out.1.stdout = "") ∧
    ∀ runs, answer.1 = .ok runs →
      (Report.Unprintable h.isMalformed format runs → out.1.stdout = "") ∧
      (¬ Report.Unprintable h.isMalformed format runs →
        out.1.stdout = Report.render format runs ∧ Report.Shows format out.1.stdout runs) ∧
      ∀ r ∈ runs, (∃ s₁ : Session σ, checker.Answers runner r s₁) ∧
        ∀ s₁ : Session σ, checker.Answers runner r s₁ →
          ((∃ f ∈ r.files, s₁.tree.isFile f = false) → out.1.status = 1) ∧
          ((∀ f ∈ r.files, s₁.tree.isFile f = true) → ∃ i o,
            (checker.linter r.linter).StartsOn checker.context s₁.tree r.files i ∧
            (runner i s₁.runner s₁.tree).1 = .ok o ∧
            (o.stdout = "" → o.stderr ≠ "" → out.1.status = 1)) := by
  intro checker answer out
  obtain ⟨hsession, notices, hstatus, hstdout⟩ := run_check runner hargs hrequest hload hfiles
  change out.1.status = (outcome h format answer.1 notices).status at hstatus
  change out.1.stdout = (outcome h format answer.1 notices).stdout at hstdout
  have hone : out.1.status = 1 ↔ ∃ runs, answer.1 = .ok runs ∧
      (HasError runs ∨ Report.Unprintable h.isMalformed format runs) := by
    rw [hstatus]
    exact status_eq_one_iff
  refine ⟨hsession, ?_, hone, ?_, fun e he => ?_, fun runs hruns => ⟨?_, ?_, fun r hr => ?_⟩⟩
  · rw [hstatus]
    exact status_eq_two_iff
  · rw [hstatus]
    exact status_eq_zero_iff
  · rw [hstdout, he]
    rfl
  · intro hbad
    rw [hstdout, hruns]
    exact (outcome_of_unprintable hbad notices).2
  · intro hgood
    have hreport : out.1.stdout = Report.render format runs := by
      rw [hstdout, hruns]
      exact (outcome_of_not_unprintable hgood notices).2
    exact ⟨hreport, hreport ▸ Report.shows_render format runs⟩
  · have hgroup : Batch.mk r.linter r.files ∈ groupFiles (select (configured c list) files) := by
      rw [← Checker.groups_of_lint hruns]
      exact List.mem_map_of_mem hr
    have henabled : (checker.linter r.linter).enabled = true := by
      rw [linter_ofConfig]
      rw [select_configured] at hgroup
      exact (isEnabled_configured c list r.linter).trans (isRequested_of_mem_groupFiles hgroup)
    have herror (h : ∃ d ∈ r.diagnostics, d.severity = .error) : out.1.status = 1 :=
      hone.2 ⟨runs, hruns, .inl ⟨r, hr, h⟩⟩
    refine ⟨Checker.answered_of_lint hruns r hr,
      fun s₁ hanswer => ⟨fun hmissing => ?_, fun hall => ?_⟩⟩
    · exact herror (Linter.exists_error_of_missing henabled hanswer hmissing)
    · have hne : r.files ≠ [] := (isGrouping_groupFiles _).filled _ hgroup
      obtain ⟨i, o, hstart, ho, hcomplaints⟩ :=
        Linter.exists_error_of_complaints ⟨henabled, hne, hall⟩ hanswer
      exact ⟨i, o, hstart, ho, fun hout herr => herror (hcomplaints hout herr)⟩

/-- A directory with a configuration, which says where a valid environment is. -/
def settled : FileTree :=
  ((((default : FileTree).put ["env"] .directory).put ["env", "log.txt"] (.file [] 0)).put
    ["env", "node_modules"] .directory).put ["weblint.toml"] (.file (Text.encode
      "[environment]\nexec_dir = '/env'\nmin_modules = 0".toList) 0)

theorem run_status_missing :
    let s : Session Unit := ⟨settled, (), [], []⟩
    let missing : Diagnostic :=
      .ofFile .esLint ⟨"/gone.js"⟩ .error Diagnostic.missingFileMessage
    ∃ out, out = (run default Linter.complaining ["check", "gone.js", "--format", "json"] s).1 ∧
      out.status = 1 ∧ Report.Shows .json out.stdout [⟨.esLint, [⟨"/gone.js"⟩], [missing]⟩] := by
  intro s missing
  let c : Config := { environment := { execDir := some ⟨"/env"⟩, minModules := 0 } }
  have hargs : Arguments.parse (default : Host).configFile
      ["check", "gone.js", "--format", "json"] =
      .ok ⟨false, none, .check [⟨"gone.js"⟩] .json none⟩ := by decide +kernel
  have hload : (ConfigSource.resolve default s.tree (configDir s.tree [⟨"gone.js"⟩]) none).load
      s.tree = .ok c := by decide +kernel
  have hfiles : Check.collect s.tree (Walk.files default s.tree) (given s.tree [⟨"gone.js"⟩]) =
      .ok [⟨"/gone.js"⟩] := by decide +kernel
  obtain ⟨-, -, hone, -, -, hok⟩ := run_status Linter.complaining hargs rfl hload hfiles
  have hruns : ((Checker.ofConfig default (configured c none)).lint Linter.complaining
      (select (configured c none) [⟨"/gone.js"⟩]) { s with journal := [] }).1 =
      .ok [⟨.esLint, [⟨"/gone.js"⟩], [missing]⟩] := by decide +kernel
  -- every path is Unicode
  have hgood : ¬ Report.Unprintable (default : Host).isMalformed .json
      [⟨.esLint, [⟨"/gone.js"⟩], [missing]⟩] := by
    rw [← Report.isPrintable_eq_false_iff]
    decide +kernel
  obtain ⟨-, hshown, -⟩ := hok _ hruns
  have herror : HasError [⟨.esLint, [⟨"/gone.js"⟩], [missing]⟩] :=
    ⟨_, List.mem_singleton_self _, missing, List.mem_singleton_self _, rfl⟩
  exact ⟨_, rfl, hone.2 ⟨_, hruns, .inl herror⟩, (hshown hgood).2⟩

/-- Answers every start as ESLint does when it has found nothing. -/
def contented : Runner Unit := fun _ u t => (.ok ⟨"[]", "", some 0⟩, u, t)

/-- ESLint has nothing to say of a file whose name is no Unicode, and the report that should say
so in JSON is not printed: the check fails. -/
theorem unprinted_though_clean :
    let file : Path := ⟨"/\uFFFD.js"⟩
    let h : Host := { (default : Host) with isMalformed := fun p => p == file }
    let s : Session Unit := ⟨settled.put ["\uFFFD.js"] (.file [] 0), (), [], []⟩
    let c : Config := { environment := { execDir := some ⟨"/env"⟩, minModules := 0 } }
    let out := (run h contented ["check", "\uFFFD.js", "--format", "json"] s).1
    ((Checker.ofConfig h c).lint contented [file] s).1 = .ok [⟨.esLint, [file], []⟩] ∧
      out.status = 1 ∧ out.stdout = "" ∧
      .shown "Error: path contains invalid UTF-8 characters\n" ∈ out.stderr ∧
      (run h contented ["check", "\uFFFD.js", "--format", "text"] s).1.status = 0 := by
  decide +kernel

end Command
end LintHub
