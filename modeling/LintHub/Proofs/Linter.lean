import LintHub.Linter
import LintHub.Proofs.FileTree.Parent
import LintHub.Proofs.Session

/-!
# What running one linter does

A linter that is switched off, has no files or misses one of them answers by itself; any
other is started once. One equation for each case, and what follows for all of them:

* `run_leads`: a linter tells nothing and is started at most once, on its files.
* `run_ok`: the run is the linter's, on the files it was given.
* `run_error_iff`: a linter fails just where the runner does.
* `run_contract`: when a linter is started, how, and what its run says in each case.
-/

namespace LintHub.Linter

variable {σ : Type} {l : Linter} {c : LintContext} {run : Runner σ} {files : List Path}
  {s : Session σ}

/-- The session in which a linter is started: the log says where. -/
def placed (l : Linter) (first : Path) (s : Session σ) : Session σ :=
  { s with journal := s.journal ++ (placeRemark? l.kind s.tree first).toList }

/-- The session that the start of a linter leaves; the log says if there was nothing but
complaints. -/
def finished (l : Linter) (o : Output) (s : Session σ) : Session σ :=
  { s with journal := s.journal ++ (remark? l.kind o).toList }

theorem forM_note_apply (r : Option Remark) (s : Session σ) :
    (r.forM Action.note : Action σ LaunchError PUnit) s =
      (.ok (), { s with journal := s.journal ++ r.toList }) := by
  cases r with
  | none => simp [Option.forM]
  | some r => simp [Option.forM]

theorem run_of_disabled (h : l.enabled = false) :
    l.run c run files s = (.ok ⟨l.kind, files, []⟩, s) := by
  simp [Linter.run, h]

theorem run_of_missing {missing : Path} (h : l.enabled = true)
    (hm : files.find? (fun f => !s.tree.isFile f) = some missing) :
    l.run c run files s =
      (.ok ⟨l.kind, files,
          [Diagnostic.ofFile l.kind missing .error Diagnostic.missingFileMessage]⟩,
        { s with journal := s.journal ++
            [.logged .debug (l.kind.displayName ++ ": " ++ missing.text ++ " does not exist")] }) := by
  simp only [Linter.run, h, Bool.not_true, Bool.false_eq_true, if_false, Action.bind_apply,
    Action.tree_apply, hm]
  rfl

theorem run_of_nil (h : l.enabled = true) :
    l.run c run [] s = (.ok ⟨l.kind, [], []⟩, s) := by
  simp [Linter.run, h, Action.bind_apply]

/-- The linter is started on its files, and its output is read. -/
theorem run_of_files {first : Path} {rest : List Path} (h : l.enabled = true)
    (hf : ∀ f ∈ first :: rest, s.tree.isFile f = true) :
    l.run c run (first :: rest) s =
      (let i := l.invocation c s.tree first (first :: rest)
      let s' := (l.placed first s).afterLaunch run i
      match (run i s.runner s.tree).1 with
      | .error e => (.error e, s')
      | .ok o => (.ok ⟨l.kind, first :: rest, diagnose l.kind first (first :: rest) o⟩,
          l.finished o s')) := by
  have hnone : (first :: rest).find? (fun f => !s.tree.isFile f) = none := by
    rw [List.find?_eq_none]
    intro f hmem
    simp [hf f hmem]
  simp only [Linter.run, h, Bool.not_true, Bool.false_eq_true, if_false, Action.bind_apply,
    Action.tree_apply, hnone, forM_note_apply, Action.launch_apply]
  unfold placed finished
  cases (run (l.invocation c s.tree first (first :: rest)) s.runner s.tree).1 <;> rfl

theorem placed_leads (first : Path) (s : Session σ) : s.Leads (l.placed first s) [] [] := by
  unfold placed placeRemark?
  cases markedDir? s.tree (searchStart first) l.kind.marker with
  | none => exact ⟨by simp [Session.events], by simp⟩
  | some dir => exact .note s _

theorem finished_leads (o : Output) (s : Session σ) : s.Leads (l.finished o s) [] [] := by
  unfold finished remark?
  split
  · exact .note s _
  · exact ⟨by simp [Session.events], by simp⟩

/-- The runner fails to start the linter, which had files, all of them there. -/
def Breaks (l : Linter) (c : LintContext) (run : Runner σ) (files : List Path) (s : Session σ)
    (e : LaunchError) : Prop :=
  l.enabled = true ∧ (∀ f ∈ files, s.tree.isFile f = true) ∧
    ∃ first rest, files = first :: rest ∧
      (run (l.invocation c s.tree first files) s.runner s.tree).1 = .error e

/-- The ways a linter can be run. -/
theorem run_cases (l : Linter) (s : Session σ) (files : List Path) :
    l.enabled = false ∨
    (l.enabled = true ∧ ∃ missing, files.find? (fun f => !s.tree.isFile f) = some missing) ∨
    (l.enabled = true ∧ files = []) ∨
    (l.enabled = true ∧ (∀ f ∈ files, s.tree.isFile f = true) ∧
      ∃ first rest, files = first :: rest) := by
  cases hl : l.enabled with
  | false => exact .inl rfl
  | true =>
    cases hm : files.find? (fun f => !s.tree.isFile f) with
    | some missing => exact .inr (.inl ⟨rfl, missing, rfl⟩)
    | none =>
      have hall : ∀ f ∈ files, s.tree.isFile f = true := by
        simpa using List.find?_eq_none.1 hm
      cases files with
      | nil => exact .inr (.inr (.inl ⟨rfl, rfl⟩))
      | cons first rest => exact .inr (.inr (.inr ⟨rfl, hall, first, rest, rfl⟩))

/-- A linter tells nothing, and it is started at most once, with just its files. -/
theorem run_leads (l : Linter) (c : LintContext) (run : Runner σ) (files : List Path)
    (s : Session σ) :
    ∃ started, s.Leads (l.run c run files s).2 [] started ∧
      (started = [] ∨ files ≠ [] ∧ started.map (·.files) = [files]) := by
  rcases run_cases l s files with h | ⟨h, missing, hm⟩ | ⟨h, rfl⟩ | ⟨h, hall, first, rest, rfl⟩
  · rw [run_of_disabled h]
    exact ⟨[], .refl s, .inl rfl⟩
  · rw [run_of_missing h hm]
    exact ⟨[], .note s _, .inl rfl⟩
  · rw [run_of_nil h]
    exact ⟨[], .refl s, .inl rfl⟩
  · rw [run_of_files h hall]
    have hl := (placed_leads (l := l) first s).trans
      (.launch _ run (l.invocation c s.tree first (first :: rest)))
    simp only
    cases (run (l.invocation c s.tree first (first :: rest)) s.runner s.tree).1 with
    | error e => exact ⟨_, hl, .inr ⟨by simp, rfl⟩⟩
    | ok o => exact ⟨_, hl.trans (finished_leads o _), .inr ⟨by simp, rfl⟩⟩

theorem run_ok {r : LintRun} (h : (l.run c run files s).1 = .ok r) :
    r.linter = l.kind ∧ r.files = files := by
  rcases run_cases l s files with hl | ⟨hl, missing, hm⟩ | ⟨hl, rfl⟩ | ⟨hl, hall, first, rest, rfl⟩
  · rw [run_of_disabled hl] at h
    cases h
    exact ⟨rfl, rfl⟩
  · rw [run_of_missing hl hm] at h
    cases h
    exact ⟨rfl, rfl⟩
  · rw [run_of_nil hl] at h
    cases h
    exact ⟨rfl, rfl⟩
  · rw [run_of_files hl hall] at h
    simp only at h
    split at h
    · cases h
    · cases h
      exact ⟨rfl, rfl⟩

theorem run_error_iff {e : LaunchError} :
    (l.run c run files s).1 = .error e ↔ l.Breaks c run files s e := by
  rcases run_cases l s files with hl | ⟨hl, missing, hm⟩ | ⟨hl, rfl⟩ | ⟨hl, hall, first, rest, rfl⟩
  · rw [run_of_disabled hl]
    refine ⟨nofun, fun h => ?_⟩
    rw [h.1] at hl
    cases hl
  · rw [run_of_missing hl hm]
    refine ⟨nofun, fun h => ?_⟩
    have hfile := h.2.1 missing (List.mem_of_find?_eq_some hm)
    have hno := List.find?_some hm
    simp [hfile] at hno
  · rw [run_of_nil hl]
    refine ⟨nofun, ?_⟩
    rintro ⟨_, _, _, _, h, _⟩
    cases h
  · rw [run_of_files hl hall]
    have hbreaks : l.Breaks c run (first :: rest) s e ↔
        (run (l.invocation c s.tree first (first :: rest)) s.runner s.tree).1 = .error e := by
      refine ⟨?_, fun h => ⟨hl, hall, first, rest, rfl, h⟩⟩
      rintro ⟨_, _, _, _, heq, h⟩
      cases heq
      exact h
    rw [hbreaks]
    simp only
    cases (run (l.invocation c s.tree first (first :: rest)) s.runner s.tree).1 with
    | error e' => simp only [Except.error.injEq]
    | ok o => simp

/-- A linter has something to do: it is switched on, and it has files, all of them there. -/
def Due (l : Linter) (t : FileTree) (files : List Path) : Prop :=
  l.enabled = true ∧ files ≠ [] ∧ ∀ f ∈ files, t.isFile f = true

/-- How a linter is started on files: its tool in the environment, with the arguments of its
kind and then each file, in the directory that is found from the first file's on. -/
structure StartsOn (l : Linter) (c : LintContext) (t : FileTree) (files : List Path)
    (i : Invocation) : Prop where
  program : i.program =
    ((c.layout.execDir.joinText "node_modules").joinText ".bin").joinText l.kind.tool
  arguments : i.arguments = l.kind.arguments
  targets : i.files = files
  extraPath : i.extraPath = c.extraPath
  workingDir : ∃ first dir, files.head? = some first ∧ first.parent? = some dir ∧
    i.workingDir = findWorkingDir t dir l.kind.marker c.home

/-- What the output of a linter means for its files: the standard output counts if there is
any, and complaints count only without it. -/
def reportOf (kind : Kind) (files : List Path) (o : Output) : List Diagnostic :=
  if o.stdout ≠ "" then kind.read o.stdout files
  else if o.stderr ≠ "" then files.head?.toList.map fun f => .ofFile kind f .error o.stderr
  else []

theorem diagnose_eq_reportOf (kind : Kind) (first : Path) (rest : List Path) (o : Output) :
    diagnose kind first (first :: rest) o = reportOf kind (first :: rest) o := by
  unfold diagnose reportOf
  by_cases hout : o.stdout = "" <;> by_cases herr : o.stderr = "" <;> simp [hout, herr]

theorem startsOn_invocation {t : FileTree} {first : Path} {rest : List Path}
    (h : t.isFile first = true) :
    l.StartsOn c t (first :: rest) (l.invocation c t first (first :: rest)) := by
  obtain ⟨dir, hdir⟩ := FileTree.exists_parent?_of_isFile h
  refine ⟨rfl, rfl, rfl, rfl, first, dir, rfl, hdir, ?_⟩
  simp only [invocation, searchStart, hdir, Option.getD_some]
  rfl

/-- A linter that has nothing to do answers without a start, and nothing changes but the log. -/
theorem run_of_not_due (c : LintContext) (run : Runner σ) (h : ¬ l.Due s.tree files) :
    (l.run c run files s).2.calls = s.calls ∧ (l.run c run files s).2.tree = s.tree ∧
      (l.run c run files s).2.runner = s.runner := by
  rcases run_cases l s files with hl | ⟨hl, missing, hm⟩ | ⟨hl, rfl⟩ | ⟨hl, hall, first, rest, rfl⟩
  · rw [run_of_disabled hl]
    exact ⟨rfl, rfl, rfl⟩
  · rw [run_of_missing hl hm]
    exact ⟨rfl, rfl, rfl⟩
  · rw [run_of_nil hl]
    exact ⟨rfl, rfl, rfl⟩
  · exact absurd ⟨hl, by simp, hall⟩ h

/-- One that has something to do is started once, and its answer is that of the runner. -/
theorem run_of_due (c : LintContext) (run : Runner σ) (h : l.Due s.tree files) :
    ∃ i, l.StartsOn c s.tree files i ∧
      (l.run c run files s).2.calls = s.calls ++ [i] ∧
      (l.run c run files s).2.tree = (run i s.runner s.tree).2.2 ∧
      (l.run c run files s).2.runner = (run i s.runner s.tree).2.1 ∧
      (l.run c run files s).1 =
        (run i s.runner s.tree).1.map fun o => ⟨l.kind, files, reportOf l.kind files o⟩ := by
  obtain ⟨hl, hne, hall⟩ := h
  obtain ⟨first, rest, rfl⟩ := List.exists_cons_of_ne_nil hne
  refine ⟨_, startsOn_invocation (hall first (List.mem_cons_self ..)), ?_⟩
  rw [run_of_files hl hall]
  simp only [diagnose_eq_reportOf]
  cases (run (l.invocation c s.tree first (first :: rest)) s.runner s.tree).1 with
  | error e => exact ⟨rfl, rfl, rfl, rfl⟩
  | ok o => exact ⟨rfl, rfl, rfl, rfl⟩

/-- So a run of such a linter is what its output means. -/
theorem exists_output_of_due {r : LintRun} (hdue : l.Due s.tree files)
    (h : (l.run c run files s).1 = .ok r) :
    ∃ i o, l.StartsOn c s.tree files i ∧ (run i s.runner s.tree).1 = .ok o ∧
      r = ⟨l.kind, files, reportOf l.kind files o⟩ := by
  obtain ⟨i, hstart, -, -, -, hanswer⟩ := run_of_due c run hdue
  rw [hanswer] at h
  cases ho : (run i s.runner s.tree).1 with
  | error e =>
    rw [ho] at h
    cases h
  | ok o =>
    rw [ho] at h
    cases h
    exact ⟨i, o, hstart, ho, rfl⟩

/-- The first file that is not there is the one that is reported. -/
theorem run_of_first_missing {before after : List Path} {missing : Path} (h : l.enabled = true)
    (hbefore : ∀ f ∈ before, s.tree.isFile f = true) (hmissing : s.tree.isFile missing = false) :
    (l.run c run (before ++ missing :: after) s).1 =
      .ok ⟨l.kind, before ++ missing :: after,
        [.ofFile l.kind missing .error Diagnostic.missingFileMessage]⟩ := by
  have hfind : (before ++ missing :: after).find? (fun f => !s.tree.isFile f) = some missing := by
    rw [List.find?_eq_some_iff_append]
    exact ⟨by simp [hmissing], before, after, rfl, fun f hf => by simp [hbefore f hf]⟩
  rw [run_of_missing h hfind]

/-- **The contract of a linter.** The runner is called at most once, and exactly once just if
the linter is switched on and has files, all of them there; else no file changes. A start is
the one that the files ask for, and what the runner answers is the answer: a failure as it is,
an output read by `reportOf`, whatever its status. Without a start the run is empty, or it says
which of the files is the first that is not there. -/
theorem run_contract (l : Linter) (c : LintContext) (run : Runner σ) (files : List Path)
    (s : Session σ) :
    let out := l.run c run files s
    (out.2.calls.length ≤ s.calls.length + 1 ∧
      (out.2.calls.length = s.calls.length + 1 ↔ l.Due s.tree files)) ∧
    (¬ l.Due s.tree files →
      out.2.calls = s.calls ∧ out.2.tree = s.tree ∧ out.2.runner = s.runner) ∧
    (l.Due s.tree files → ∃ i, l.StartsOn c s.tree files i ∧
      out.2.calls = s.calls ++ [i] ∧
      out.2.tree = (run i s.runner s.tree).2.2 ∧ out.2.runner = (run i s.runner s.tree).2.1 ∧
      (∀ e, (run i s.runner s.tree).1 = .error e → out.1 = .error e) ∧
      ∀ o, (run i s.runner s.tree).1 = .ok o →
        out.1 = .ok ⟨l.kind, files, reportOf l.kind files o⟩) ∧
    (l.enabled = false ∨ files = [] → out.1 = .ok ⟨l.kind, files, []⟩) ∧
    (∀ before missing after, l.enabled = true → files = before ++ missing :: after →
      (∀ f ∈ before, s.tree.isFile f = true) → s.tree.isFile missing = false →
      out.1 = .ok ⟨l.kind, files,
        [⟨missing, none, none, Diagnostic.missingFileMessage, .error, none, l.kind⟩]⟩) := by
  intro out
  refine ⟨?_, run_of_not_due c run, fun h => ?_, fun h => ?_, ?_⟩
  · by_cases h : l.Due s.tree files
    · obtain ⟨i, -, hcalls, -⟩ := run_of_due c run h
      have hlength : out.2.calls.length = s.calls.length + 1 := by
        rw [hcalls, List.length_append, List.length_singleton]
      exact ⟨hlength.le, fun _ => h, fun _ => hlength⟩
    · have hlength : out.2.calls.length = s.calls.length := by rw [(run_of_not_due c run h).1]
      exact ⟨by omega, fun hone => by omega, fun hd => absurd hd h⟩
  · obtain ⟨i, hstart, hcalls, htree, hrunner, hanswer⟩ := run_of_due c run h
    refine ⟨i, hstart, hcalls, htree, hrunner, fun e he => ?_, fun o ho => ?_⟩
    · rw [he] at hanswer
      exact hanswer
    · rw [ho] at hanswer
      exact hanswer
  · rcases h with hl | rfl
    · exact congrArg Prod.fst (run_of_disabled hl)
    · cases hl : l.enabled with
      | false => exact congrArg Prod.fst (run_of_disabled hl)
      | true => exact congrArg Prod.fst (run_of_nil hl)
  · rintro before missing after hl rfl hbefore hmissing
    exact run_of_first_missing hl hbefore hmissing

/-- Two stylesheets. -/
def twoStyles : FileTree :=
  (((default : FileTree).put ["p"] .directory).put ["p", "a.css"] (.file [] 0)).put
    ["p", "b.css"] (.file [] 0)

/-- Writes to standard error alone, and reports failure. -/
def complaining : Runner Unit := fun _ u t => (.ok ⟨"", "oops", some 1⟩, u, t)

theorem run_contract_complaining :
    let l : Linter := ⟨.cssLint, true⟩
    let c : LintContext := ⟨⟨⟨"/env"⟩, 0⟩, none, some ⟨"/home"⟩⟩
    let files : List Path := [⟨"/p/a.css"⟩, ⟨"/p/b.css"⟩]
    let s : Session Unit := ⟨twoStyles, (), [], []⟩
    let out := l.run c complaining files s
    l.Due s.tree files ∧
      (∃ i, l.StartsOn c s.tree files i ∧ out.2.calls = [i]) ∧
      out.1 = .ok ⟨.cssLint, files, [.ofFile .cssLint ⟨"/p/a.css"⟩ .error "oops"]⟩ := by
  intro l c files s out
  have hdue : l.Due s.tree files := ⟨rfl, by decide, by decide +kernel⟩
  obtain ⟨-, -, hstarted, -, -⟩ := run_contract l c complaining files s
  obtain ⟨i, hstart, hcalls, -, -, -, hanswer⟩ := hstarted hdue
  exact ⟨hdue, ⟨i, hstart, hcalls⟩, hanswer ⟨"", "oops", some 1⟩ rfl⟩

end LintHub.Linter
