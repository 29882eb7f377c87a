import LintHub.Environment.Provision
import LintHub.Proofs.Session

/-!
# One pass of setup

What the steps of setup do to a session. All but the script only change files, so they
are given as functions of the tree alone (`SetupStep.onTree`); the script is one start of
a program.

* `step_apply`, `script_apply`: what a step does, in these terms.
* `reprovision_leads`, `ensureReady_leads`: what a request tells the caller and starts.
-/

namespace LintHub

variable {σ : Type}

namespace Payload

/-- What putting a payload into a directory does to the files. -/
def onTree (p : Payload) (dir : Path) (t : FileTree) : Except ProvisionError Unit × FileTree :=
  let target := dir.joinText p.name
  match p.source with
  | .bytes content =>
    match t.write target content with
    | (.error e, t) => (.error (.file target e), t)
    | (.ok (), t) =>
      ((t.setMode target FileTree.programMode).1.mapError (.file target),
        (t.setMode target FileTree.programMode).2)
  | .file source =>
    if t.isFile source then
      ((t.copy source target).1.mapError (.file target), (t.copy source target).2)
    else (.error (.missingPayload p.name source), t)

/-- What the log says when a payload is in place. -/
def remarks (p : Payload) (dir : Path) : Except ProvisionError Unit → List Remark
  | .ok () => [.logged .debug ("Extracted " ++ (dir.joinText p.name).text)]
  | .error _ => []

theorem extractTo_apply (p : Payload) (dir : Path) (s : Session σ) :
    p.extractTo dir s =
      ((p.onTree dir s.tree).1,
        { s with
          tree := (p.onTree dir s.tree).2
          journal := s.journal ++ p.remarks dir (p.onTree dir s.tree).1 }) := by
  unfold extractTo onTree
  cases p.source with
  | bytes content =>
    simp only [Action.bind_apply, Action.change_apply]
    rcases s.tree.write (dir.joinText p.name) content with ⟨_ | _, t⟩
    · simp [remarks]
    · simp only [mapError_ok]
      rcases t.setMode (dir.joinText p.name) FileTree.programMode with ⟨_ | _, t⟩
      · simp [remarks]
      · simp [remarks, Action.log]
  | file source =>
    simp only [Action.bind_apply, Action.tree_apply]
    cases s.tree.isFile source with
    | false => simp [remarks, Action.bind_apply]
    | true =>
      simp only [if_true]
      rw [Action.bind_apply, Action.change_apply]
      rcases s.tree.copy source (dir.joinText p.name) with ⟨_ | _, t⟩
      · simp [remarks]
      · simp [remarks, Action.log]

theorem events_remarks (p : Payload) (dir : Path) (r : Except ProvisionError Unit) :
    Remark.events (p.remarks dir r) = [] := by
  cases r <;> rfl

end Payload

/-- What a step of setup does to the files; the script is no function of them alone. -/
def SetupStep.onTree (v : Provisioner) :
    SetupStep → FileTree → Except ProvisionError Unit × FileTree
  | .clear, t =>
    if t.exists? v.layout.execDir then
      ((t.removeAll v.layout.execDir).1.mapError (.file v.layout.execDir),
        (t.removeAll v.layout.execDir).2)
    else (.ok (), t)
  | .create, t =>
    ((t.makeDirectories v.layout.execDir).1.mapError (.file v.layout.execDir),
      (t.makeDirectories v.layout.execDir).2)
  | .extract p, t => p.onTree v.layout.execDir t
  | .script, t => (.ok (), t)
  | .mark, t =>
    ((t.write v.layout.marker (Text.encode v.stamp.toList)).1.mapError (.file v.layout.marker),
      (t.write v.layout.marker (Text.encode v.stamp.toList)).2)

namespace Provisioner

variable {v : Provisioner} {run : Runner σ} {s s' : Session σ}

/-- The start of the setup script. -/
def setupCall (v : Provisioner) : Invocation := v.bundle.setupInvocation v.layout.execDir

/-- What the script's end means for setup. -/
def verdict : Except LaunchError Output → Except ProvisionError Unit
  | .ok output => if output.isSuccess then .ok () else .error (.failed output.status output.stderr)
  | .error e => .error (.notRun e)

/-- A step other than the script changes files, and may leave something in the log. -/
theorem step_apply (v : Provisioner) (run : Runner σ) {step : SetupStep} (h : step ≠ .script)
    (s : Session σ) :
    ∃ remarks, Remark.events remarks = [] ∧
      v.step run step s =
        ((step.onTree v s.tree).1,
          { s with tree := (step.onTree v s.tree).2, journal := s.journal ++ remarks }) := by
  cases step with
  | clear =>
    refine ⟨[], rfl, ?_⟩
    simp only [Provisioner.step, SetupStep.onTree, Action.bind_apply, Action.tree_apply]
    cases s.tree.exists? v.layout.execDir with
    | false => simp
    | true => simp [Action.change_apply]
  | create => exact ⟨[], rfl, by simp [Provisioner.step, SetupStep.onTree, Action.change_apply]⟩
  | extract p =>
    exact ⟨_, p.events_remarks v.layout.execDir _, Payload.extractTo_apply p v.layout.execDir s⟩
  | script => exact absurd rfl h
  | mark => exact ⟨[], rfl, by simp [Provisioner.step, SetupStep.onTree, Action.change_apply]⟩

/-- The files after such a step. -/
theorem onTree_of_step {step : SetupStep} {r : Except ProvisionError Unit}
    (h : v.step run step s = (r, s')) (hstep : step ≠ .script) :
    step.onTree v s.tree = (r, s'.tree) := by
  obtain ⟨remarks, -, heq⟩ := step_apply v run hstep s
  rw [heq] at h
  obtain ⟨hres, rfl⟩ := Prod.mk.inj h
  exact Prod.ext hres rfl

theorem script_apply (s : Session σ) :
    v.step run .script s =
      (verdict (run v.setupCall s.runner s.tree).1, s.afterLaunch run v.setupCall) := by
  have hl := Action.launch_apply (ε := ProvisionError) run .notRun v.setupCall s
  simp only [Provisioner.step, Action.bind_apply]
  rw [show v.bundle.setupInvocation v.layout.execDir = v.setupCall from rfl, hl]
  cases (run v.setupCall s.runner s.tree).1 with
  | error e => rfl
  | ok output => cases hs : output.isSuccess <;> simp [verdict, hs]

/-- A step tells nothing, and only the script is a start. -/
theorem step_leads (v : Provisioner) (run : Runner σ) (step : SetupStep) (s : Session σ) :
    s.Leads (v.step run step s).2 [] (if step = .script then [v.setupCall] else []) := by
  by_cases h : step = .script
  · subst h
    rw [script_apply]
    exact .launch s run v.setupCall
  · obtain ⟨remarks, hremarks, heq⟩ := step_apply v run h s
    rw [heq, if_neg h]
    exact ⟨by simp [Session.events, Remark.events_append, hremarks], by simp⟩

/-- A step starts the script as often as it is the script. -/
theorem step_starts (v : Provisioner) (run : Runner σ) (step : SetupStep) (s : Session σ) :
    s.Leads (v.step run step s).2 [] (List.replicate ([step].count .script) v.setupCall) := by
  have hstep := step_leads v run step s
  by_cases h : step = .script
  · rw [if_pos h] at hstep
    simpa [h] using hstep
  · rw [if_neg h] at hstep
    simpa [h] using hstep

theorem count_script_cons (step : SetupStep) (steps : List SetupStep) :
    (step :: steps).count .script = [step].count .script + steps.count .script := by
  rw [← List.count_append, List.singleton_append]

/-- The steps that are left of a pass, and the news that it is over. -/
def finish (v : Provisioner) (run : Runner σ) (steps : List SetupStep) :
    Action σ ProvisionError Unit := do
  steps.forM (v.step run)
  Action.emit .installed

theorem finish_nil (s : Session σ) : v.finish run [] s = (.ok (), s.tell .installed) := rfl

theorem finish_cons (step : SetupStep) (steps : List SetupStep) (s : Session σ) :
    v.finish run (step :: steps) s =
      match v.step run step s with
      | (.ok (), s') => v.finish run steps s'
      | (.error e, s') => (.error e, s') := by
  unfold finish
  rw [List.forM, Action.bind_apply, Action.bind_apply]
  rcases v.step run step s with ⟨_ | _, s'⟩
  · rfl
  · exact (Action.bind_apply _ _ _).symm

/-- The session in which the steps of a pass begin: the caller has been told. -/
def announced (v : Provisioner) (s : Session σ) : Session σ :=
  let remark := .logged .info ("Provisioning linter environment in " ++ v.layout.execDir.text)
  Session.tell { s with journal := s.journal ++ [remark] } .installing

theorem announce_apply (s : Session σ) :
    (v.announce : Action σ ProvisionError Unit) s = (.ok (), v.announced s) := by
  unfold announce Action.log
  rw [Action.bind_apply, Action.note_apply]
  rfl

theorem reprovision_apply (s : Session σ) :
    v.reprovision run s = v.finish run v.bundle.setupSteps (v.announced s) := by
  unfold reprovision
  rw [Action.bind_apply, announce_apply]
  rfl

theorem announced_leads (s : Session σ) : s.Leads (v.announced s) [.installing] [] :=
  (Session.Leads.note s (.logged _ _)).trans (.tell _ _)

@[simp] theorem announced_tree (s : Session σ) : (v.announced s).tree = s.tree := rfl

@[simp] theorem announced_runner (s : Session σ) : (v.announced s).runner = s.runner := rfl

/-- What a pass tells at its end. -/
def lastNews : Except ProvisionError Unit → List Event
  | .ok () => [.installed]
  | .error _ => []

/-- The rest of a pass tells that it is over, if it gets that far; it starts the script as
often as the script is among its steps, or less often if it fails. -/
theorem finish_leads (v : Provisioner) (run : Runner σ) (steps : List SetupStep) (s : Session σ) :
    ∃ n, s.Leads (v.finish run steps s).2 (lastNews (v.finish run steps s).1)
        (List.replicate n v.setupCall) ∧
      n ≤ steps.count .script ∧
      ((v.finish run steps s).1 = .ok () → n = steps.count .script) := by
  induction steps generalizing s with
  | nil => exact ⟨0, .tell s .installed, Nat.le_refl 0, fun _ => rfl⟩
  | cons step steps ih =>
    have hstep := step_starts v run step s
    rw [finish_cons, count_script_cons]
    rcases hres : v.step run step s with ⟨_ | _, s'⟩
    · rw [hres] at hstep
      refine ⟨[step].count .script, ?_, Nat.le_add_right _ _, fun h => by cases h⟩
      exact hstep
    · rw [hres] at hstep
      obtain ⟨n, hlead, hle, hok⟩ := ih s'
      refine ⟨[step].count .script + n, ?_, Nat.add_le_add_left hle _, fun h => by rw [hok h]⟩
      rw [← List.replicate_append_replicate]
      exact hstep.trans hlead

theorem count_script_setupSteps (b : Bundle) : b.setupSteps.count .script = 1 := by
  simp [Bundle.setupSteps, Bundle.payloads]

/-- A pass tells that it begins and, if it succeeds, that it is over. It starts the script at
most once, and exactly once if it succeeds. -/
theorem reprovision_leads (v : Provisioner) (run : Runner σ) (s : Session σ) :
    ∃ n ≤ 1, s.Leads (v.reprovision run s).2 (.installing :: lastNews (v.reprovision run s).1)
        (List.replicate n v.setupCall) ∧
      ((v.reprovision run s).1 = .ok () → n = 1) := by
  obtain ⟨n, hlead, hle, hok⟩ :=
    finish_leads v run v.bundle.setupSteps (v.announced s)
  rw [count_script_setupSteps] at hle hok
  refine ⟨n, hle, ?_, hok⟩
  rw [reprovision_apply]
  exact (announced_leads s).trans hlead

/-- A valid environment is left as it is. -/
theorem ensureReady_of_isValid (h : v.layout.isValid s.tree = true) :
    v.ensureReady run s = (.ok .already, s) := by
  simp [ensureReady, Action.bind_apply, h]

/-- Any other is set up. -/
theorem ensureReady_of_not_isValid (h : v.layout.isValid s.tree = false) :
    v.ensureReady run s =
      ((v.reprovision run s).1.map fun _ => .provisioned, (v.reprovision run s).2) := by
  simp only [ensureReady, Action.bind_apply, Action.tree_apply, h, Bool.false_eq_true, if_false]
  rcases v.reprovision run s with ⟨_ | _, s'⟩ <;> rfl

theorem ensureReady_eq_already_iff :
    (v.ensureReady run s).1 = .ok .already ↔ v.layout.isValid s.tree = true := by
  cases hv : v.layout.isValid s.tree with
  | true => simp [ensureReady_of_isValid hv]
  | false =>
    rw [ensureReady_of_not_isValid hv]
    cases (v.reprovision run s).1 <;> simp [Except.map]

/-- What a request for a ready environment tells, by its answer. -/
def news : Except ProvisionError Readiness → List Event
  | .ok .already => []
  | .ok .provisioned => [.installing, .installed]
  | .error _ => [.installing]

/-- A request tells what its answer says, and starts at most the script. -/
theorem ensureReady_leads (v : Provisioner) (run : Runner σ) (s : Session σ) :
    ∃ n ≤ 1, s.Leads (v.ensureReady run s).2 (news (v.ensureReady run s).1)
      (List.replicate n v.setupCall) := by
  cases hv : v.layout.isValid s.tree with
  | true =>
    rw [ensureReady_of_isValid hv]
    exact ⟨0, Nat.zero_le 1, .refl s⟩
  | false =>
    obtain ⟨n, hn, hlead, -⟩ := reprovision_leads v run s
    refine ⟨n, hn, ?_⟩
    rw [ensureReady_of_not_isValid hv]
    cases hres : (v.reprovision run s).1 <;> rw [hres] at hlead <;> exact hlead

end Provisioner
end LintHub
