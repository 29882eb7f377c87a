import LintHub.Lint
import LintHub.Proofs.Environment.Pass
import LintHub.Proofs.Grouping
import LintHub.Proofs.Linter

/-!
# What a call of `lint` tells and starts

The linters of the batches have their turns one after another, each announced first,
until all have answered (`Turns`) or the runner fails to start one (`Stops`).

* `Turns.leads`, `Stops.leads`: what is told and started on the way to either end.
* `turns_or_stops`: there is no third.
* `lint_protocol`: the whole call, with the environment in front of it.
-/

namespace LintHub

variable {σ : Type}

namespace Checker

variable {k : Checker} {run : Runner σ} {total completed : Nat} {bs : List Batch}
  {runs : List LintRun} {s s' : Session σ}

/-- What is told before each of these batches, of which the first is the one after
`completed` others. -/
def progressFrom (total completed : Nat) (bs : List Batch) : List Event :=
  bs.mapIdx fun i b => .progress total (completed + i) b.kind b.files.length

@[simp] theorem progressFrom_nil : progressFrom total completed [] = [] := rfl

theorem progressFrom_cons (b : Batch) (bs : List Batch) :
    progressFrom total completed (b :: bs) =
      .progress total completed b.kind b.files.length :: progressFrom total (completed + 1) bs := by
  simp only [progressFrom, List.mapIdx_cons, Nat.add_zero, Nat.add_assoc, Nat.add_comm 1]

/-- The session in which the linter of a batch has its turn. -/
def called (total completed : Nat) (b : Batch) (s : Session σ) : Session σ :=
  s.tell (.progress total completed b.kind b.files.length)

/-- The linters of the batches have their turns one after another, from one session to
another, and all of them answer with a run. -/
inductive Turns (k : Checker) (run : Runner σ) (total : Nat) :
    Nat → List Batch → Session σ → List LintRun → Session σ → Prop where
  | nil (completed : Nat) (s : Session σ) : Turns k run total completed [] s [] s
  | cons {completed : Nat} {b : Batch} {bs : List Batch} {s s' s'' : Session σ} {r : LintRun}
      {rs : List LintRun}
      (turn : (k.linter b.kind).run k.context run b.files (called total completed b s) =
        (.ok r, s'))
      (rest : Turns k run total (completed + 1) bs s' rs s'') :
      Turns k run total completed (b :: bs) s (r :: rs) s''

/-- The linters of `j` batches have their turns, and the runner fails to start the linter of
the next one. -/
inductive Stops (k : Checker) (run : Runner σ) (total : Nat) :
    Nat → List Batch → Session σ → Nat → Batch → LaunchError → Session σ → Prop where
  | here {completed : Nat} {b : Batch} {bs : List Batch} {s s' : Session σ} {e : LaunchError}
      (breaks : (k.linter b.kind).Breaks k.context run b.files (called total completed b s) e)
      (left : ((k.linter b.kind).run k.context run b.files (called total completed b s)).2 = s') :
      Stops k run total completed (b :: bs) s 0 b e s'
  | later {completed j : Nat} {b broken : Batch} {bs : List Batch} {s s' s'' : Session σ}
      {r : LintRun} {e : LaunchError}
      (turn : (k.linter b.kind).run k.context run b.files (called total completed b s) =
        (.ok r, s'))
      (rest : Stops k run total (completed + 1) bs s' j broken e s'') :
      Stops k run total completed (b :: bs) s (j + 1) broken e s''

/-- These programs were started on files of these batches, on each batch at most once and in
their order. -/
def StartedOn (started : List Invocation) (bs : List Batch) : Prop :=
  (started.map (·.files)).Sublist (bs.map (·.files))

theorem linter_kind (k : Checker) (kind : Kind) : (k.linter kind).kind = kind := by
  unfold linter
  cases h : k.linters.find? fun l => l.kind == kind with
  | none => rfl
  | some l => simpa using List.find?_some h

theorem runBatches_cons (b : Batch) (s : Session σ) :
    k.runBatches run total completed (b :: bs) s =
      match (k.linter b.kind).run k.context run b.files (called total completed b s) with
      | (.error e, s') => (.error (.runner b.kind e), s')
      | (.ok r, s') =>
        match k.runBatches run total (completed + 1) bs s' with
        | (.error e, s'') => (.error e, s'')
        | (.ok rs, s'') => (.ok (r :: rs), s'') := by
  rw [runBatches, Action.bind_apply, Session.emit_apply]
  simp only
  rw [Action.bind_apply, Action.mapError_apply]
  unfold called
  rcases (k.linter b.kind).run k.context run b.files _ with ⟨_ | r, s'⟩
  · rfl
  · simp only [mapError_ok]
    rw [Action.bind_apply]
    rcases k.runBatches run total (completed + 1) bs s' with ⟨_ | rs, s''⟩ <;> rfl

/-- One turn: the batch is announced, and its linter is started on it or not. -/
theorem turn_leads (k : Checker) (run : Runner σ) (total completed : Nat) (b : Batch)
    (s : Session σ) :
    ∃ started, s.Leads
        ((k.linter b.kind).run k.context run b.files (called total completed b s)).2
        [.progress total completed b.kind b.files.length] started ∧
      StartedOn started [b] := by
  obtain ⟨started, hlead, hfiles⟩ :=
    (k.linter b.kind).run_leads k.context run b.files (called total completed b s)
  refine ⟨started, (Session.Leads.tell s _).trans hlead, ?_⟩
  rcases hfiles with rfl | ⟨-, hfiles⟩
  · exact List.nil_sublist _
  · unfold StartedOn
    rw [hfiles]
    exact List.Sublist.refl _

namespace Turns

/-- The runs are those of the batches, in order. -/
theorem batches_eq (h : k.Turns run total completed bs s runs s') :
    runs.map (fun r => Batch.mk r.linter r.files) = bs := by
  induction h with
  | nil => rfl
  | cons turn _ ih =>
    obtain ⟨hkind, hfiles⟩ := Linter.run_ok (congrArg Prod.fst turn)
    rw [List.map_cons, ih, hkind, hfiles, linter_kind]

theorem leads (h : k.Turns run total completed bs s runs s') :
    ∃ started, s.Leads s' (progressFrom total completed bs) started ∧ StartedOn started bs := by
  induction h with
  | nil completed s => exact ⟨[], .refl s, List.Sublist.refl _⟩
  | @cons completed b bs s s₁ s₂ r rs turn _ ih =>
    obtain ⟨first, hfirst, hon⟩ := turn_leads k run total completed b s
    obtain ⟨started, hlead, hons⟩ := ih
    rw [turn] at hfirst
    refine ⟨first ++ started, ?_, ?_⟩
    · rw [progressFrom_cons]
      exact hfirst.trans hlead
    · unfold StartedOn at *
      rw [List.map_append]
      exact List.Sublist.append hon hons

end Turns

theorem runBatches_of_turns (h : k.Turns run total completed bs s runs s') :
    k.runBatches run total completed bs s = (.ok runs, s') := by
  induction h with
  | nil => rfl
  | cons turn _ ih =>
    rw [runBatches_cons, turn]
    simp only
    rw [ih]

namespace Stops

variable {j : Nat} {b : Batch} {e : LaunchError}

theorem getElem?_eq (h : k.Stops run total completed bs s j b e s') : bs[j]? = some b := by
  induction h with
  | here => rfl
  | later _ _ ih => exact ih

theorem leads (h : k.Stops run total completed bs s j b e s') :
    ∃ started, s.Leads s' (progressFrom total completed (bs.take (j + 1))) started ∧
      StartedOn started (bs.take (j + 1)) := by
  induction h with
  | @here completed b bs s s' e breaks left =>
    obtain ⟨started, hlead, hon⟩ := turn_leads k run total completed b s
    rw [left] at hlead
    exact ⟨started, by simpa [progressFrom_cons] using hlead, by simpa using hon⟩
  | @later completed j b broken bs s s₁ s₂ r e turn _ ih =>
    obtain ⟨first, hfirst, hon⟩ := turn_leads k run total completed b s
    obtain ⟨started, hlead, hons⟩ := ih
    rw [turn] at hfirst
    refine ⟨first ++ started, ?_, ?_⟩
    · rw [List.take_succ_cons, progressFrom_cons]
      exact hfirst.trans hlead
    · rw [List.take_succ_cons]
      unfold StartedOn at *
      rw [List.map_append]
      exact List.Sublist.append hon hons

end Stops

theorem runBatches_of_stops {j : Nat} {b : Batch} {e : LaunchError}
    (h : k.Stops run total completed bs s j b e s') :
    k.runBatches run total completed bs s = (.error (.runner b.kind e), s') := by
  induction h with
  | @here completed b bs s s' e breaks left =>
    rw [runBatches_cons, ← left]
    have herr := Linter.run_error_iff.2 breaks
    -- the linter fails just where the runner does
    rcases hres : (k.linter b.kind).run k.context run b.files (called total completed b s)
      with ⟨_ | r, s₁⟩
    · rw [hres] at herr
      cases herr
      rfl
    · rw [hres] at herr
      cases herr
  | later turn _ ih =>
    rw [runBatches_cons, turn]
    simp only
    rw [ih]

/-- All linters answer, or one is the first that cannot be started. -/
theorem turns_or_stops (k : Checker) (run : Runner σ) (total : Nat) (bs : List Batch)
    (completed : Nat) (s : Session σ) :
    (∃ runs s', k.Turns run total completed bs s runs s') ∨
      ∃ j b e s', k.Stops run total completed bs s j b e s' := by
  induction bs generalizing completed s with
  | nil => exact .inl ⟨[], s, .nil completed s⟩
  | cons b bs ih =>
    rcases hturn : (k.linter b.kind).run k.context run b.files (called total completed b s)
      with ⟨e | r, s₁⟩
    · exact .inr ⟨0, b, e, s₁, .here (Linter.run_error_iff.1 (by rw [hturn])) (by rw [hturn])⟩
    · rcases ih (completed + 1) s₁ with ⟨runs, s', h⟩ | ⟨j, b', e, s', h⟩
      · exact .inl ⟨r :: runs, s', .cons hturn h⟩
      · exact .inr ⟨j + 1, b', e, s', .later hturn h⟩

/-- Without a batch there is nothing to do. -/
theorem lint_of_nil {files : List Path} (h : groupFiles files = []) (s : Session σ) :
    k.lint run files s = (.ok [], s) := by
  simp [lint, h]

theorem lint_of_error {files : List Path} {e : ProvisionError} (h : groupFiles files ≠ [])
    (hready : (k.provisioner.ensureReady run s).1 = .error e) :
    k.lint run files s = (.error (.provision e), (k.provisioner.ensureReady run s).2) := by
  have hempty : (groupFiles files).isEmpty = false := by simpa using h
  simp only [lint, hempty, Bool.false_eq_true, if_false, Action.bind_apply, Action.mapError_apply,
    hready]
  rfl

/-- In a ready environment the batches have their turns. -/
theorem lint_of_ok {files : List Path} {a : Readiness} (h : groupFiles files ≠ [])
    (hready : (k.provisioner.ensureReady run s).1 = .ok a) :
    k.lint run files s =
      match k.runBatches run (groupFiles files).length 0 (groupFiles files)
        (k.provisioner.ensureReady run s).2 with
      | (.ok runs, s') => (.ok runs, s'.tell (.done (groupFiles files).length))
      | (.error e, s') => (.error e, s') := by
  have hempty : (groupFiles files).isEmpty = false := by simpa using h
  simp only [lint, hempty, Bool.false_eq_true, if_false, Action.bind_apply, Action.mapError_apply,
    hready, mapError_ok]
  rcases k.runBatches run (groupFiles files).length 0 (groupFiles files) _ with ⟨_ | runs, s'⟩
  · rfl
  · rfl

/-- **What holds of every run of a linter** holds of the runs of the batches. -/
theorem Turns.forall {P : LintRun → Prop} (h : k.Turns run total completed bs s runs s')
    (hrun : ∀ l files s r, (Linter.run l k.context run files s).1 = .ok r → P r) :
    ∀ r ∈ runs, P r := by
  induction h with
  | nil => simp
  | cons turn _ ih =>
    intro r hr
    rcases List.mem_cons.1 hr with rfl | hr
    · exact hrun _ _ _ _ (congrArg Prod.fst turn)
    · exact ih r hr

/-- A call that answers with runs has had all its turns. -/
theorem turns_of_lint {files : List Path} (hne : groupFiles files ≠ [])
    (h : (k.lint run files s).1 = .ok runs) :
    ∃ s₀ s', k.Turns run (groupFiles files).length 0 (groupFiles files) s₀ runs s' := by
  cases hready : (k.provisioner.ensureReady run s).1 with
  | error e =>
    rw [lint_of_error hne hready] at h
    cases h
  | ok a =>
    rw [lint_of_ok hne hready] at h
    rcases turns_or_stops k run (groupFiles files).length (groupFiles files) 0
      (k.provisioner.ensureReady run s).2 with ⟨runs', s₁, hturns⟩ | ⟨j, b, e, s₁, hstops⟩
    · rw [runBatches_of_turns hturns] at h
      cases h
      exact ⟨_, _, hturns⟩
    · rw [runBatches_of_stops hstops] at h
      cases h

/-- And so it holds of the runs of a call. -/
theorem forall_of_lint_ok {P : LintRun → Prop} {files : List Path}
    (hrun : ∀ l files s r, (Linter.run l k.context run files s).1 = .ok r → P r)
    (h : (k.lint run files s).1 = .ok runs) : ∀ r ∈ runs, P r := by
  by_cases hne : groupFiles files = []
  · rw [lint_of_nil hne] at h
    cases h
    simp
  · obtain ⟨s₀, s', hturns⟩ := turns_of_lint hne h
    exact hturns.forall hrun

section Protocol

variable {files : List Path} {a : Readiness} {setups : List Invocation}

theorem lint_of_turns (h : groupFiles files ≠ [])
    (hready : (k.provisioner.ensureReady run s).1 = .ok a)
    (hlead : s.Leads (k.provisioner.ensureReady run s).2 (Provisioner.news (.ok a)) setups)
    (hturns : k.Turns run (groupFiles files).length 0 (groupFiles files)
      (k.provisioner.ensureReady run s).2 runs s') :
    k.lint run files s = (.ok runs, s'.tell (.done (groupFiles files).length)) ∧
      runs.map (fun r => Batch.mk r.linter r.files) = groupFiles files ∧
      ∃ started, StartedOn started (groupFiles files) ∧
        s.Leads (k.lint run files s).2
          (Provisioner.news (.ok a) ++
            progressFrom (groupFiles files).length 0 (groupFiles files) ++
            [.done (groupFiles files).length])
          (setups ++ started) := by
  have heq : k.lint run files s = (.ok runs, s'.tell (.done (groupFiles files).length)) := by
    rw [lint_of_ok h hready, runBatches_of_turns hturns]
  obtain ⟨started, hrun, hon⟩ := hturns.leads
  refine ⟨heq, hturns.batches_eq, started, hon, ?_⟩
  rw [heq, ← List.append_nil (setups ++ started)]
  exact (hlead.trans hrun).trans (.tell s' _)

theorem lint_of_stops {j : Nat} {b : Batch} {e : LaunchError} (h : groupFiles files ≠ [])
    (hready : (k.provisioner.ensureReady run s).1 = .ok a)
    (hlead : s.Leads (k.provisioner.ensureReady run s).2 (Provisioner.news (.ok a)) setups)
    (hstops : k.Stops run (groupFiles files).length 0 (groupFiles files)
      (k.provisioner.ensureReady run s).2 j b e s') :
    (groupFiles files)[j]? = some b ∧
      k.lint run files s = (.error (.runner b.kind e), s') ∧
      ∃ started, StartedOn started ((groupFiles files).take (j + 1)) ∧
        s.Leads (k.lint run files s).2
          (Provisioner.news (.ok a) ++
            progressFrom (groupFiles files).length 0 ((groupFiles files).take (j + 1)))
          (setups ++ started) := by
  have heq : k.lint run files s = (.error (.runner b.kind e), s') := by
    rw [lint_of_ok h hready, runBatches_of_stops hstops]
  obtain ⟨started, hrun, hon⟩ := hstops.leads
  refine ⟨hstops.getElem?_eq, heq, started, hon, ?_⟩
  rw [heq]
  exact hlead.trans hrun

end Protocol

/-- **The protocol of a call.** Without a file that a linter handles, nothing happens. Else
the environment is made ready first, which tells `Provisioner.news` and starts at most the
setup script; if that fails, nothing follows. If it succeeds, the linters of the batches have
their turns, with one `progress` in front of each: either all answer, the runs are those of the
batches and `done` comes last, or the linter of batch `j` is the first that the runner cannot
start, the call ends there with its name and `j + 1` of the `progress` events are all that was
told. -/
theorem lint_protocol (k : Checker) (run : Runner σ) (files : List Path) (s : Session σ) :
    let batches := groupFiles files
    let total := batches.length
    let ready := k.provisioner.ensureReady run s
    let out := k.lint run files s
    IsGrouping batches ∧
    ((∀ f ∈ files, Kind.ofPath f = none) → out = (.ok [], s)) ∧
    ((∃ f ∈ files, Kind.ofPath f ≠ none) →
      (ready.1 = .ok .already ↔ k.provisioner.layout.isValid s.tree = true) ∧
      ∃ setups, (∀ i ∈ setups, i = k.provisioner.setupCall) ∧
        s.Leads ready.2 (Provisioner.news ready.1) setups ∧
        (∀ e, ready.1 = .error e → out = (.error (.provision e), ready.2)) ∧
        ∀ a, ready.1 = .ok a →
          ((∃ runs s', k.Turns run total 0 batches ready.2 runs s') ∨
            ∃ j b e s', k.Stops run total 0 batches ready.2 j b e s') ∧
          (∀ runs s', k.Turns run total 0 batches ready.2 runs s' →
            out = (.ok runs, s'.tell (.done total)) ∧
            runs.map (fun r => Batch.mk r.linter r.files) = batches ∧
            ∃ started, StartedOn started batches ∧
              s.Leads out.2
                (Provisioner.news (.ok a) ++ progressFrom total 0 batches ++ [.done total])
                (setups ++ started)) ∧
          (∀ j b e s', k.Stops run total 0 batches ready.2 j b e s' →
            batches[j]? = some b ∧
            out = (.error (.runner b.kind e), s') ∧
            ∃ started, StartedOn started (batches.take (j + 1)) ∧
              s.Leads out.2
                (Provisioner.news (.ok a) ++ progressFrom total 0 (batches.take (j + 1)))
                (setups ++ started))) := by
  intro batches total ready out
  refine ⟨isGrouping_groupFiles files, fun hnone => ?_, fun ⟨f, hf, hkind⟩ => ?_⟩
  · exact lint_of_nil (groupFiles_eq_nil_iff.2 hnone) s
  · have hne : batches ≠ [] := fun h => hkind (groupFiles_eq_nil_iff.1 h f hf)
    obtain ⟨n, -, hlead⟩ := k.provisioner.ensureReady_leads run s
    refine ⟨Provisioner.ensureReady_eq_already_iff, List.replicate n k.provisioner.setupCall,
      fun i hi => (List.mem_replicate.1 hi).2, hlead, fun e he => lint_of_error hne he,
      fun a ha => ?_⟩
    -- the batches go one of two ways, each as its lemma says
    rw [ha] at hlead
    exact ⟨turns_or_stops k run total batches 0 ready.2,
      fun runs s' h => lint_of_turns hne ha hlead h,
      fun j b e s' h => lint_of_stops hne ha hlead h⟩

/-- A valid environment beside two files. -/
def twoFiles : FileTree :=
  (((((default : FileTree).put ["env"] .directory).put ["env", "log.txt"] (.file [] 0)).put
    ["env", "node_modules"] .directory).put ["a.js"] (.file [] 0)).put ["b.ts"] (.file [] 0)

/-- The linters of these files, with that environment. -/
def twoLinters : Checker where
  linters := [⟨.esLint, true⟩, ⟨.tsLint, true⟩]
  provisioner := ⟨⟨⟨"/env"⟩, 0⟩, Bundle.ofDirectory ⟨"/node"⟩, ""⟩
  extraPath := none
  home := none

/-- Starts any program but the second of these linters, to no effect. -/
def secondMissing : Runner Unit := fun i u t =>
  (if i.files = [⟨"/b.ts"⟩] then .error ⟨.start, i.program, .missing⟩
    else .ok ⟨"", "", some 0⟩, u, t)

theorem lint_protocol_second_missing :
    let s : Session Unit := ⟨twoFiles, (), [], []⟩
    let out := twoLinters.lint secondMissing [⟨"/b.ts"⟩, ⟨"/a.js"⟩] s
    out.1 = .error (.runner .tsLint ⟨.start, ⟨"/env/node_modules/.bin/tslint"⟩, .missing⟩) ∧
      out.2.events = [.progress 2 0 .esLint 1, .progress 2 1 .tsLint 1] := by
  intro s out
  have hbatches : groupFiles [⟨"/b.ts"⟩, ⟨"/a.js"⟩] =
      [⟨.esLint, [⟨"/a.js"⟩]⟩, ⟨.tsLint, [⟨"/b.ts"⟩]⟩] := by decide +kernel
  have hvalid : twoLinters.provisioner.layout.isValid s.tree = true := by decide +kernel
  have hready : twoLinters.provisioner.ensureReady secondMissing s = (.ok .already, s) :=
    Provisioner.ensureReady_of_isValid hvalid
  obtain ⟨-, -, h⟩ := lint_protocol twoLinters secondMissing [⟨"/b.ts"⟩, ⟨"/a.js"⟩] s
  obtain ⟨-, setups, -, -, -, h⟩ := h ⟨⟨"/a.js"⟩, by simp, by decide +kernel⟩
  obtain ⟨-, -, h⟩ := h .already (by rw [hready])
  rw [hready, hbatches] at h
  -- the first linter answers, the second is the one that stops
  obtain ⟨-, hout, started, -, hlead⟩ :=
    h 1 _ _ _ (.later rfl (.here ⟨rfl, by decide +kernel, _, _, rfl, rfl⟩ rfl))
  exact ⟨congrArg Prod.fst hout, hlead.events⟩

end Checker
end LintHub
