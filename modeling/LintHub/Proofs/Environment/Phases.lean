import LintHub.Proofs.Environment.Pass

/-!
# The phases of a pass

A pass has three phases: the preparations, which only change files; the script; and the
marker. Each begins when the one before has succeeded, and what the first failure leaves
is what the pass leaves (`reprovision_of_unprepared`, `reprovision_of_script_error`,
`reprovision_of_script_ok`).
-/

namespace LintHub

variable {σ : Type}

/-- The steps before the script. -/
def Bundle.preparations (b : Bundle) : List SetupStep :=
  [.clear, .create] ++ b.payloads.map .extract

theorem Bundle.setupSteps_eq (b : Bundle) : b.setupSteps = b.preparations ++ [.script, .mark] := by
  simp [setupSteps, preparations]

theorem Bundle.script_not_mem_preparations (b : Bundle) : .script ∉ b.preparations := by
  simp [preparations]

/-- What steps do to the files one after another, until one fails. -/
def SetupStep.allOnTree (v : Provisioner) :
    List SetupStep → FileTree → Except ProvisionError Unit × FileTree
  | [], t => (.ok (), t)
  | step :: steps, t =>
    match step.onTree v t with
    | (.ok (), t) => allOnTree v steps t
    | (.error e, t) => (.error e, t)

theorem SetupStep.allOnTree_cons (v : Provisioner) (step : SetupStep) (steps : List SetupStep)
    (t : FileTree) :
    allOnTree v (step :: steps) t =
      match step.onTree v t with
      | (.ok (), t) => allOnTree v steps t
      | (.error e, t) => (.error e, t) := rfl

theorem SetupStep.allOnTree_append (v : Provisioner) (steps rest : List SetupStep) (t : FileTree) :
    allOnTree v (steps ++ rest) t =
      match allOnTree v steps t with
      | (.ok (), t) => allOnTree v rest t
      | (.error e, t) => (.error e, t) := by
  induction steps generalizing t with
  | nil => rfl
  | cons step steps ih =>
    rw [List.cons_append, allOnTree_cons, allOnTree_cons]
    rcases step.onTree v t with ⟨e | _, t'⟩
    · rfl
    · exact ih t'

/-- Two steps that succeed, one after the other. -/
theorem SetupStep.allOnTree_pair_ok {v : Provisioner} {step step' : SetupStep}
    {t t' : FileTree} :
    allOnTree v [step, step'] t = (.ok (), t') ↔
      ∃ t₁, step.onTree v t = (.ok (), t₁) ∧ step'.onTree v t₁ = (.ok (), t') := by
  rw [allOnTree_cons]
  constructor
  · intro h
    rcases hstep : step.onTree v t with ⟨e | _, t₁⟩
    · rw [hstep] at h
      cases h
    · rw [hstep] at h
      simp only at h
      rw [allOnTree_cons] at h
      rcases hstep' : step'.onTree v t₁ with ⟨e | _, t₂⟩
      · rw [hstep'] at h
        cases h
      · rw [hstep'] at h
        cases h
        exact ⟨t₁, rfl, hstep'⟩
  · rintro ⟨t₁, hstep, hstep'⟩
    rw [hstep]
    simp only
    rw [allOnTree_cons, hstep']
    rfl

namespace Provisioner

variable {v : Provisioner} {run : Runner σ} {s s' : Session σ} {t t' : FileTree}

/-- What the preparations do to the files. -/
def prepare (v : Provisioner) (t : FileTree) : Except ProvisionError Unit × FileTree :=
  SetupStep.allOnTree v v.bundle.preparations t

/-- Without a directory that is made anew there is nothing to put payloads into. -/
theorem prepare_of_renewal_error {e : ProvisionError}
    (h : SetupStep.allOnTree v [.clear, .create] t = (.error e, t')) :
    v.prepare t = (.error e, t') := by
  unfold prepare Bundle.preparations
  rw [SetupStep.allOnTree_append, h]

theorem prepare_of_renewal_ok (h : SetupStep.allOnTree v [.clear, .create] t = (.ok (), t')) :
    v.prepare t = SetupStep.allOnTree v (v.bundle.payloads.map .extract) t' := by
  unfold prepare Bundle.preparations
  rw [SetupStep.allOnTree_append, h]

theorem exists_renewal_of_prepare_ok (h : (v.prepare t).1 = .ok ()) :
    ∃ t', SetupStep.allOnTree v [.clear, .create] t = (.ok (), t') ∧
      v.prepare t = SetupStep.allOnTree v (v.bundle.payloads.map .extract) t' := by
  rcases hfirst : SetupStep.allOnTree v [.clear, .create] t with ⟨e | _, t'⟩
  · rw [prepare_of_renewal_error hfirst] at h
    cases h
  · exact ⟨t', rfl, prepare_of_renewal_ok hfirst⟩

/-- Steps without the script are taken on the files alone. -/
theorem finish_append (v : Provisioner) (run : Runner σ) {steps : List SetupStep}
    (h : .script ∉ steps) (rest : List SetupStep) (s : Session σ) :
    ∃ remarks, Remark.events remarks = [] ∧
      v.finish run (steps ++ rest) s =
        let s' := { s with
          tree := (SetupStep.allOnTree v steps s.tree).2
          journal := s.journal ++ remarks }
        match (SetupStep.allOnTree v steps s.tree).1 with
        | .ok () => v.finish run rest s'
        | .error e => (.error e, s') := by
  induction steps generalizing s with
  | nil => exact ⟨[], rfl, by simp [SetupStep.allOnTree]⟩
  | cons step steps ih =>
    rw [List.mem_cons, not_or] at h
    obtain ⟨remarks, hnone, happly⟩ := step_apply v run (Ne.symm h.1) s
    rw [List.cons_append, finish_cons, happly]
    simp only [SetupStep.allOnTree]
    -- the first failure ends both, the steps on the files and the pass
    rcases hstep : step.onTree v s.tree with ⟨e | _, t⟩
    · exact ⟨remarks, hnone, rfl⟩
    · obtain ⟨remarks', hnone', hrest⟩ :=
        ih h.2 { s with tree := t, journal := s.journal ++ remarks }
      refine ⟨remarks ++ remarks', by rw [Remark.events_append, hnone, hnone']; rfl, ?_⟩
      simp only
      rw [hrest, List.append_assoc]

/-- What the script answers, and the files and the state of the runner after it. -/
def afterScript (v : Provisioner) (run : Runner σ) (s : Session σ) :
    Except LaunchError Output × σ × FileTree :=
  run v.setupCall s.runner (v.prepare s.tree).2

/-- What writing the marker does to the files. -/
def mark (v : Provisioner) (t : FileTree) : Except ProvisionError Unit × FileTree :=
  SetupStep.onTree v .mark t

/-- A script that has succeeded was started once, and the preparations had succeeded. -/
theorem of_finish_script
    (h : v.finish run (v.bundle.preparations ++ [.script]) s = (.ok (), s')) :
    (v.prepare s.tree).1 = .ok () ∧ verdict (v.afterScript run s).1 = .ok () ∧
      s'.calls = s.calls ++ [v.setupCall] ∧ (v.afterScript run s).2.2 = s'.tree := by
  obtain ⟨remarks, -, heq⟩ :=
    finish_append v run v.bundle.script_not_mem_preparations [.script] s
  rw [heq, show SetupStep.allOnTree v v.bundle.preparations s.tree = v.prepare s.tree from rfl] at h
  cases hprepare : (v.prepare s.tree).1 with
  | error e =>
    rw [hprepare] at h
    cases h
  | ok _ =>
    rw [hprepare] at h
    simp only at h
    rw [finish_cons, script_apply] at h
    unfold afterScript
    simp only at h
    cases hverdict : verdict (run v.setupCall s.runner (v.prepare s.tree).2).1 with
    | error e =>
      rw [hverdict] at h
      cases h
    | ok _ =>
      rw [hverdict] at h
      cases h
      exact ⟨rfl, rfl, rfl, rfl⟩

/-- A pass is over when the preparations have failed. -/
theorem reprovision_of_unprepared {e : ProvisionError} (h : (v.prepare s.tree).1 = .error e) :
    (v.reprovision run s).1 = .error e ∧
      (v.reprovision run s).2.tree = (v.prepare s.tree).2 ∧
      (v.reprovision run s).2.runner = s.runner ∧
      (v.reprovision run s).2.calls = s.calls := by
  obtain ⟨remarks, -, heq⟩ := finish_append v run
    v.bundle.script_not_mem_preparations [.script, .mark] (v.announced s)
  rw [reprovision_apply, Bundle.setupSteps_eq, heq, announced_tree,
    show SetupStep.allOnTree v v.bundle.preparations s.tree = v.prepare s.tree from rfl, h]
  exact ⟨rfl, rfl, rfl, rfl⟩

/-- Else the script is started on what the preparations leave. -/
theorem reprovision_of_prepared (run : Runner σ) (h : (v.prepare s.tree).1 = .ok ()) :
    ∃ s₁ : Session σ, s₁.tree = (v.prepare s.tree).2 ∧ s₁.runner = s.runner ∧
      s₁.calls = s.calls ∧
      v.reprovision run s =
        match verdict (v.afterScript run s).1 with
        | .ok () => v.finish run [.mark] (s₁.afterLaunch run v.setupCall)
        | .error e => (.error e, s₁.afterLaunch run v.setupCall) := by
  obtain ⟨remarks, -, heq⟩ := finish_append v run
    v.bundle.script_not_mem_preparations [.script, .mark] (v.announced s)
  refine ⟨{ v.announced s with
    tree := (v.prepare s.tree).2
    journal := (v.announced s).journal ++ remarks }, rfl, rfl, rfl, ?_⟩
  rw [reprovision_apply, Bundle.setupSteps_eq, heq, announced_tree,
    show SetupStep.allOnTree v v.bundle.preparations s.tree = v.prepare s.tree from rfl, h]
  simp only
  rw [finish_cons, script_apply]
  unfold afterScript
  simp only [announced_runner]
  cases verdict (run v.setupCall s.runner (v.prepare s.tree).2).1 <;> rfl

/-- A pass is over when the script has failed. -/
theorem reprovision_of_script_error {e : ProvisionError} (h : (v.prepare s.tree).1 = .ok ())
    (hscript : verdict (v.afterScript run s).1 = .error e) :
    (v.reprovision run s).1 = .error e ∧
      (v.reprovision run s).2.tree = (v.afterScript run s).2.2 ∧
      (v.reprovision run s).2.runner = (v.afterScript run s).2.1 ∧
      (v.reprovision run s).2.calls = s.calls ++ [v.setupCall] := by
  obtain ⟨s₁, htree, hrunner, hcalls, heq⟩ := reprovision_of_prepared run h
  rw [heq, hscript]
  unfold afterScript
  rw [← htree, ← hrunner, ← hcalls]
  exact ⟨rfl, rfl, rfl, rfl⟩

/-- Else it ends with the marker. -/
theorem reprovision_of_script_ok (h : (v.prepare s.tree).1 = .ok ())
    (hscript : verdict (v.afterScript run s).1 = .ok ()) :
    (v.reprovision run s).1 = (v.mark (v.afterScript run s).2.2).1 ∧
      (v.reprovision run s).2.tree = (v.mark (v.afterScript run s).2.2).2 ∧
      (v.reprovision run s).2.runner = (v.afterScript run s).2.1 ∧
      (v.reprovision run s).2.calls = s.calls ++ [v.setupCall] := by
  obtain ⟨s₁, htree, hrunner, hcalls, heq⟩ := reprovision_of_prepared run h
  have hafter : v.afterScript run s = run v.setupCall s₁.runner s₁.tree := by
    rw [htree, hrunner]
    rfl
  obtain ⟨remarks, -, hmark⟩ := step_apply v run (show SetupStep.mark ≠ .script from nofun)
    (s₁.afterLaunch run v.setupCall)
  rw [heq, hscript, hafter, ← hcalls]
  simp only
  rw [finish_cons, hmark, show SetupStep.onTree v .mark (s₁.afterLaunch run v.setupCall).tree =
    v.mark (run v.setupCall s₁.runner s₁.tree).2.2 from rfl]
  generalize v.mark (run v.setupCall s₁.runner s₁.tree).2.2 = marked
  rcases marked with ⟨e | _, t⟩
  · exact ⟨rfl, rfl, rfl, rfl⟩
  · exact ⟨rfl, rfl, rfl, rfl⟩

end Provisioner
end LintHub
