import LintHub.Proofs.Environment.Stopped

/-!
# Requests over a history

An environment is asked for again and again. Between the requests anybody may change any files, and
on any request the system may stop any change of files (`Responds`). Whatever happened before, each
request keeps the same contract (`Visit.Sound`): after a failure there is no marker and the next
request starts over, but for three cases. A `..` in the path may bring an old directory back, which
is then not cleared; a removal that is stopped may leave the old marker; and a marker whose writing
is stopped stays as far as it was written.

* `History.sound`: every request of every history.
* `failed_request_leaves_valid_environment`: an environment behind a `..` that a failed request
  leaves valid.
* `responds_before_removal`: a valid environment whose removal is refused, which stays valid.
-/

namespace LintHub

variable {σ : Type}

/-- What is asked of an environment. -/
inductive Request where
  /-- That it is ready. -/
  | ensure
  /-- That it is set up, even if it is ready. -/
  | reprovision
  deriving DecidableEq, Repr

namespace Provisioner

/-- The answer to a request, and the session it leaves. -/
def answer (v : Provisioner) (run : Runner σ) :
    Request → Session σ → Except ProvisionError Readiness × Session σ
  | .ensure, s => v.ensureReady run s
  | .reprovision, s =>
    ((v.reprovision run s).1.map fun _ => .provisioned, (v.reprovision run s).2)

/-- How a request may be answered, and the session it leaves, on a system that may stop any change
of files; with the step that was stopped, if any. -/
inductive Responds (v : Provisioner) (run : Runner σ) : Request → Session σ → Option SetupStep →
    Except ProvisionError Readiness → Session σ → Prop
  /-- Nothing is to be done. -/
  | ready {s : Session σ} (valid : v.layout.isValid s.tree = true) :
    Responds v run .ensure s none (.ok .already) s
  /-- The environment is set up. -/
  | pass {r : Request} {s s' : Session σ} {stop : Option SetupStep}
    {res : Except ProvisionError Unit}
    (wanted : r = .reprovision ∨ v.layout.isValid s.tree = false)
    (finishes : v.Finishes run v.bundle.setupSteps (v.announced s) stop res s') :
    Responds v run r s stop (res.map fun _ => .provisioned) s'

/-- A request with its answer, between the sessions before and after it. -/
structure Visit (σ : Type) where
  request : Request
  before : Session σ
  /-- The step that the system stopped, if any. -/
  stop : Option SetupStep
  answer : Except ProvisionError Readiness
  after : Session σ

/-- Requests one after another, with any changes of the files from outside between them. -/
inductive History (v : Provisioner) (run : Runner σ) :
    Session σ → List (Visit σ) → Session σ → Prop
  | nil (s : Session σ) : History v run s [] s
  | visit {r : Request} {s s₁ s' : Session σ} {stop : Option SetupStep}
    {a : Except ProvisionError Readiness} {visits : List (Visit σ)}
    (responds : v.Responds run r s stop a s₁) (rest : History v run s₁ visits s') :
    History v run s (⟨r, s, stop, a, s₁⟩ :: visits) s'
  | outside (t : FileTree) {s s' : Session σ} {visits : List (Visit σ)}
    (rest : History v run { s with tree := t } visits s') : History v run s visits s'

/-- The contract of a request. -/
structure Visit.Sound (v : Provisioner) (run : Runner σ) (x : Visit σ) : Prop where
  /-- A valid environment is ready: nothing is told, started or changed. -/
  ready : x.request = .ensure → v.layout.isValid x.before.tree = true →
    x.answer = .ok .already ∧ x.after = x.before
  /-- One that has been set up: the caller is told of both ends, the script was started once
  and reported success, and the marker is a file. -/
  ok : x.request = .reprovision ∨ v.layout.isValid x.before.tree = false →
    ∀ a, x.answer = .ok a →
      a = .provisioned ∧
      x.before.Leads x.after [.installing, .installed] [v.setupCall] ∧
      (∃ o, (v.afterScript run x.before).1 = .ok o ∧ o.isSuccess = true) ∧
      x.after.tree.isFile v.layout.marker = true
  /-- One that could not be set up: the caller is told of the beginning, and the script was
  started at most once. -/
  error : ∀ e, x.answer = .error e →
    ∃ n ≤ 1, x.before.Leads x.after [.installing] (List.replicate n v.setupCall)
  /-- In a directory that is renewed there is no marker then, and the next request starts over,
  unless the pass was stopped while it removed the old directory or wrote the marker. -/
  renewed : ∀ e, x.answer = .error e → v.Renews x.before.tree →
    x.stop ≠ some .clear → x.stop ≠ some .mark →
    x.after.tree.isFile v.layout.marker = false ∧
      v.layout.isValid x.after.tree = false ∧
      ∀ stop a s', v.Responds run .ensure x.after stop a s' → a ≠ .ok .already
  /-- Where the removal was stopped, some of the old directory is left, and nothing else has been
  done. What is found there then, a marker or a valid environment, was there before. -/
  cleared : x.stop = some .clear →
    (∃ cause, x.answer = .error (.file v.layout.execDir cause)) ∧
      x.after.calls = x.before.calls ∧
      (∃ k e, x.before.tree.find? false v.layout.execDir = .ok (k, e) ∧
        x.before.tree.RemovesPart k x.after.tree) ∧
      (x.after.tree.isFile v.layout.marker = true → x.before.tree.isFile v.layout.marker = true) ∧
      (v.layout.isValid x.after.tree = true → v.layout.isValid x.before.tree = true)
  /-- Where the marker's writing was stopped, setup was complete: the script has reported success,
  and only the marker has been touched since. -/
  marked : x.stop = some .mark →
    (∃ cause, x.answer = .error (.file v.layout.marker cause)) ∧
      (v.prepare x.before.tree).1 = .ok () ∧
      (∃ o, (v.afterScript run x.before).1 = .ok o ∧ o.isSuccess = true) ∧
      x.after.calls = x.before.calls ++ [v.setupCall] ∧
      (v.afterScript run x.before).2.2.Writes v.layout.marker x.after.tree
  /-- A marker that making the directory uncovers is not removed. -/
  uncovered : ∀ e t, x.answer = .error e → x.stop ≠ some .clear → x.stop ≠ some .create →
    SetupStep.allOnTree v [.clear, .create] x.before.tree = (.ok (), t) →
    t.isFile v.layout.marker = true → v.OnlyAdds run →
    x.after.tree.isFile v.layout.marker = true

variable {v : Provisioner} {run : Runner σ} {s s' : Session σ} {r : Request}
  {stop : Option SetupStep} {a : Except ProvisionError Readiness}

/-- A request that does not find a valid environment is a pass. -/
theorem answer_eq_reprovision (h : r = .reprovision ∨ v.layout.isValid s.tree = false) :
    v.answer run r s =
      ((v.reprovision run s).1.map fun _ => .provisioned, (v.reprovision run s).2) := by
  rcases h with rfl | h
  · rfl
  · cases r with
    | ensure => exact ensureReady_of_not_isValid h
    | reprovision => rfl

/-- A request is a pass, or it finds a valid environment and does nothing. -/
theorem answer_cases (v : Provisioner) (run : Runner σ) (r : Request) (s : Session σ) :
    v.answer run r s =
        ((v.reprovision run s).1.map fun _ => .provisioned, (v.reprovision run s).2) ∨
      v.answer run r s = (.ok .already, s) := by
  by_cases hpass : r = .reprovision ∨ v.layout.isValid s.tree = false
  · exact .inl (answer_eq_reprovision hpass)
  · rw [not_or, Bool.not_eq_false] at hpass
    cases r with
    | reprovision => exact absurd rfl hpass.1
    | ensure => exact .inr (ensureReady_of_isValid hpass.2)

/-- The answer is one that a request may be given. -/
theorem responds_answer (v : Provisioner) (run : Runner σ) (r : Request) (s : Session σ) :
    v.Responds run r s none (v.answer run r s).1 (v.answer run r s).2 := by
  by_cases hpass : r = .reprovision ∨ v.layout.isValid s.tree = false
  · rw [answer_eq_reprovision hpass, reprovision_apply]
    exact .pass hpass (finishes_finish v run _ _)
  · rw [not_or, Bool.not_eq_false] at hpass
    cases r with
    | reprovision => exact absurd rfl hpass.1
    | ensure =>
      have heq : v.answer run .ensure s = (.ok .already, s) := ensureReady_of_isValid hpass.2
      rw [heq]
      exact .ready hpass.2

/-- It is the only one if nothing is stopped. -/
theorem Responds.eq_answer (h : v.Responds run r s none a s') : v.answer run r s = (a, s') := by
  cases h with
  | ready valid => exact ensureReady_of_isValid valid
  | pass wanted finishes =>
    rw [answer_eq_reprovision wanted, reprovision_apply, finishes.eq_of_not_stopped]

/-- A script that ended a step well has reported success. -/
theorem exists_success_of_verdict {x : Except LaunchError Output} (h : verdict x = .ok ()) :
    ∃ o, x = .ok o ∧ o.isSuccess = true := by
  cases x with
  | error e => cases h
  | ok o =>
    refine ⟨o, rfl, ?_⟩
    by_contra hfail
    simp [verdict, hfail] at h

theorem Responds.of_error {e : ProvisionError} (h : v.Responds run r s stop (.error e) s') :
    v.Finishes run v.bundle.setupSteps (v.announced s) stop (.error e) s' := by
  generalize ha : Except.error e = a at h
  cases h with
  | ready => cases ha
  | @pass _ _ _ _ res _ finishes =>
    cases res with
    | ok _ => cases ha
    | error e' =>
      cases ha
      exact finishes

theorem Responds.of_stop {step : SetupStep} (h : v.Responds run r s (some step) a s') :
    ∃ res, a = res.map (fun _ => .provisioned) ∧
      v.Finishes run v.bundle.setupSteps (v.announced s) (some step) res s' := by
  cases h with
  | pass _ finishes => exact ⟨_, rfl, finishes⟩

/-- No request finds an environment ready that is not valid. -/
theorem Responds.ne_already (h : v.Responds run r s stop a s')
    (hinvalid : v.layout.isValid s.tree = false) : a ≠ .ok .already := by
  cases h with
  | ready valid =>
    rw [hinvalid] at valid
    cases valid
  | @pass _ _ _ _ res => cases res <;> nofun

/-- A request keeps its contract in whatever session it is made. -/
theorem Responds.keepsContract (hnames : v.PlainNames) (hspares : v.SparesMarker run)
    (h : v.Responds run r s stop a s') : Visit.Sound v run ⟨r, s, stop, a, s'⟩ where
  ready := by
    rintro rfl hvalid
    cases h with
    | ready => exact ⟨rfl, rfl⟩
    | pass wanted =>
      rcases wanted with hother | hinvalid
      · cases hother
      · exact absurd (hvalid.symm.trans hinvalid) nofun
  ok hpass a' ha := by
    cases h with
    | ready valid =>
      rcases hpass with hother | hinvalid
      · cases hother
      · exact absurd (valid.symm.trans hinvalid) nofun
    | @pass _ _ _ _ res _ finishes =>
      cases res with
      | error e => cases ha
      | ok _ =>
        cases ha
        -- a pass that succeeded is the one that nothing stopped
        obtain ⟨-, hfinish⟩ := finishes.eq_of_ok
        have heq : v.reprovision run s = (.ok (), s') := (reprovision_apply s).trans hfinish
        obtain ⟨n, -, hlead, hone⟩ := reprovision_leads v run s
        rw [heq] at hlead hone
        obtain rfl := hone rfl
        have hres : (v.reprovision run s).1 = .ok () := by rw [heq]
        have hfile := (isValid_of_reprovision_ok hres).1
        rw [heq] at hfile
        exact ⟨rfl, hlead, exists_success_of_verdict (reprovision_ok hres).2.1, hfile⟩
  error e he := by
    simp only at he
    subst he
    obtain ⟨n, hn, hlead⟩ := h.of_error.leads
    rw [count_script_setupSteps] at hn
    exact ⟨n, hn, (announced_leads s).trans hlead⟩
  renewed e he hrenews hclear hmark := by
    simp only at he
    subst he
    have hfile := h.of_error.isFile_marker hnames hspares hclear hmark hrenews
    have hinvalid := Layout.isValid_of_no_marker hfile
    exact ⟨hfile, hinvalid, fun _ _ _ hnext => hnext.ne_already hinvalid⟩
  cleared hstop := by
    simp only at hstop
    subst hstop
    obtain ⟨_, rfl, hfinish⟩ := h.of_stop
    obtain ⟨⟨cause, rfl⟩, hcalls, k, e, hfound, hpart⟩ := hfinish.of_clear
    exact ⟨⟨cause, rfl⟩, hcalls, ⟨k, e, hfound, hpart⟩, hpart.grows.isFile,
      Layout.isValid_of_grows hpart.grows⟩
  marked hstop := by
    simp only at hstop
    subst hstop
    obtain ⟨_, rfl, hfinish⟩ := h.of_stop
    obtain ⟨⟨cause, rfl⟩, hprepare, hverdict, hcalls, hwrote⟩ := hfinish.of_mark
    exact ⟨⟨cause, rfl⟩, hprepare, exists_success_of_verdict hverdict, hcalls, hwrote⟩
  uncovered e t he hclear hcreate hmade hfile hadds := by
    simp only at he
    subst he
    exact h.of_error.isFile_marker_of_uncovered hadds hclear hcreate hmade hfile

/-- **Every request of every history** keeps the contract, whatever was there at first, whatever
has been changed from outside and whatever the system stops. A path without a `..` is always
renewed. -/
theorem History.sound {visits : List (Visit σ)} (hnames : v.PlainNames)
    (hspares : v.SparesMarker run) (h : v.History run s visits s') :
    (∀ x ∈ visits, x.Sound v run) ∧
      (v.layout.execDir.text ≠ "" → .up ∉ FileTree.moves v.layout.execDir →
        ∀ x ∈ visits, v.Renews x.before.tree) := by
  refine ⟨?_, fun hne hup x _ => renews_of_no_up hne hup x.before.tree⟩
  induction h with
  | nil => simp
  | visit responds _ ih =>
    intro x hx
    rcases List.mem_cons.1 hx with rfl | hx
    · exact responds.keepsContract hnames hspares
    · exact ih x hx
  | outside _ _ ih => exact ih

/-- Starts nothing. -/
def broken : Runner Unit := fun i u t => (.error ⟨.start, i.program, .missing⟩, u, t)

/-- Two requests with a change from outside between them. -/
theorem History.two (v : Provisioner) (run : Runner σ) (r r' : Request) (s : Session σ)
    (t : FileTree) :
    let first := v.answer run r s
    let between := { first.2 with tree := t }
    let second := v.answer run r' between
    v.History run s
      [⟨r, s, none, first.1, first.2⟩, ⟨r', between, none, second.1, second.2⟩] second.2 :=
  .visit (responds_answer v run r s)
    (.outside t (.visit (responds_answer v run r' _) (.nil _)))

/-- Requests that fail, although somebody writes a marker before the second. -/
theorem sound_of_broken :
    let v := plain ⟨"/env"⟩ 1
    ∃ visits s', v.History broken ⟨default, (), [], []⟩ visits s' ∧
      visits.map (·.request) = [.ensure, .reprovision] ∧
      (visits.map fun x => x.before.tree.isFile v.layout.marker) = [false, true] ∧
      ∀ x ∈ visits, x.answer = .error (.notRun ⟨.start, ⟨"sh"⟩, .missing⟩) ∧ x.stop = none ∧
        x.after.tree.isFile v.layout.marker = false := by
  intro v
  have hhistory := History.two v broken .ensure .reprovision ⟨default, (), [], []⟩
    (((default : FileTree).put ["env"] .directory).put ["env", "log.txt"] (.file [] 0))
  -- this runner leaves the files as they are
  have hspares : v.SparesMarker broken := fun _ _ h => h
  obtain ⟨hsound, hrenews⟩ := History.sound (plainNames_plain ⟨"/env"⟩ 1) hspares hhistory
  have hrenewed := hrenews (by decide) (by decide)
  refine ⟨_, _, hhistory, rfl, by decide +kernel, fun x hx => ?_⟩
  have hends : x.answer = .error (.notRun ⟨.start, ⟨"sh"⟩, .missing⟩) ∧ x.stop = none := by
    rcases List.mem_cons.1 hx with rfl | hx'
    · decide +kernel
    · obtain rfl := List.mem_singleton.1 hx'
      decide +kernel
  obtain ⟨herror, hstop⟩ := hends
  have hrenew := (hsound x hx).renewed _ herror (hrenewed x hx)
  rw [hstop] at hrenew
  exact ⟨herror, hstop, (hrenew nofun nofun).1⟩

/-- The directory is looked for behind one that is missing, and found when that one is made. -/
theorem failed_request_leaves_valid_environment :
    let bundle := { (plain ⟨"/a/b/../c"⟩ 1).bundle with archive := ⟨"a", .file ⟨"/none"⟩⟩ }
    let v := { plain ⟨"/a/b/../c"⟩ 1 with bundle }
    let t := ((((default : FileTree).put ["a"] .directory).put ["a", "c"] .directory).put
      ["a", "c", "log.txt"] (.file [] 0)).put ["a", "c", "node_modules"] .directory
    let s : Session Unit := ⟨t.put ["a", "c", "node_modules", "p"] .directory, (), [], []⟩
    let out := v.ensureReady idle s
    v.layout.isValid s.tree = false ∧
      out.1 = .error (.missingPayload "a" ⟨"/none"⟩) ∧
      out.2.tree.isFile v.layout.marker = true ∧
      v.layout.isValid out.2.tree = true ∧
      (v.ensureReady idle out.2).1 = .ok .already := by
  decide +kernel

/-- **A removal that is refused** at once leaves everything, and what was valid stays so. -/
theorem responds_before_removal (run : Runner σ) (hne : v.layout.execDir.text ≠ "")
    (hvalid : v.layout.isValid s.tree = true) (cause : FileError) :
    ∃ s', v.Responds run .reprovision s (some .clear) (.error (.file v.layout.execDir cause)) s' ∧
      s'.tree = s.tree ∧ v.Responds run .ensure s' none (.ok .already) s' := by
  have hfile : s.tree.isFile v.layout.marker = true := by
    rw [Layout.isValid_eq, Bool.and_eq_true] at hvalid
    exact hvalid.1
  obtain ⟨htakes, k, hlead, -⟩ := Layout.leadsTo_of_isFile_marker hfile
  have htakesDir := htakes.of_joinText FileTree.isName_markerName hne
  have hthere : s.tree.exists? v.layout.execDir = true :=
    FileTree.exists?_of_leadsTo htakesDir hlead
  obtain ⟨l, e, hfound⟩ : ∃ l e, s.tree.find? false v.layout.execDir = .ok (l, e) := by
    rcases FileTree.find?_false_of_leadsTo htakesDir hlead with hfound | ⟨l, target, hfound⟩
    · exact ⟨_, _, hfound⟩
    · exact ⟨_, _, hfound⟩
  have hstops := SetupStep.Stops.clear (t := s.tree) cause hthere hfound (.refl s.tree l)
  exact ⟨_, .pass (.inl rfl) (.stopped hstops), rfl, .ready hvalid⟩

end Provisioner
end LintHub
