import LintHub.Proofs.Environment.Stopped

/-!
# What others see of a pass

Others may look at the environment between any two steps of a pass. What they see is only
right if the environment does not look valid too early: where it is valid between two steps,
it is valid in the end (`Keeps`, `Steady`). There are two reasons for this.

* `steady_of_onlyAdds`: a script that takes nothing away.
* `steady_of_no_up`: a directory that is empty after the first two steps, so that there is no
  marker until the last.
-/

namespace LintHub.Provisioner

variable {σ : Type} {v : Provisioner} {run : Runner σ} {s s' : Session σ} {steps : List SetupStep}

/-- If the environment is valid before one of these steps, it is valid after the last. -/
def Keeps (v : Provisioner) (run : Runner σ) : List SetupStep → Session σ → Prop
  | [], _ => True
  | step :: steps, s =>
    (v.layout.isValid s.tree = true →
        v.layout.isValid (v.finish run (step :: steps) s).2.tree = true) ∧
      ∀ s', v.step run step s = (.ok (), s') → Keeps v run steps s'

/-- A pass that is begun in an invalid environment keeps what it makes valid. -/
def Steady (v : Provisioner) (run : Runner σ) : Prop :=
  ∀ s : Session σ, v.layout.isValid s.tree = false →
    v.Keeps run v.bundle.setupSteps (v.announced s)

theorem Keeps.isValid_finish (h : v.Keeps run steps s) (hvalid : v.layout.isValid s.tree = true) :
    v.layout.isValid (v.finish run steps s).2.tree = true := by
  cases steps with
  | nil => exact hvalid
  | cons step steps => exact h.1 hvalid

/-- Where nothing is taken away, what is valid stays so. -/
theorem keeps_of_onlyAdds (hadds : v.OnlyAdds run) (h : .clear ∉ steps) (s : Session σ) :
    v.Keeps run steps s := by
  induction steps generalizing s with
  | nil => trivial
  | cons step steps ih =>
    refine ⟨Layout.isValid_of_grows ((finishes_finish v run _ s).grows hadds h), fun s' _ => ?_⟩
    exact ih (fun hmem => h (List.mem_cons_of_mem _ hmem)) s'

/-- **A script that takes nothing away** keeps a pass steady. -/
theorem steady_of_onlyAdds (hadds : v.OnlyAdds run) : v.Steady run := by
  intro s hinvalid
  refine ⟨fun hvalid => ?_, fun s' _ => keeps_of_onlyAdds hadds (by simp) s'⟩
  rw [announced_tree, hinvalid] at hvalid
  cases hvalid

/-- What is known of the files after a step that succeeded. Of the script it is only known that
it leaves no marker where there was none. -/
def After (v : Provisioner) (t t' : FileTree) : SetupStep → Prop
  | .script => t'.isFile v.layout.marker = false
  | step => step.onTree v t = (.ok (), t')

/-- The payloads are in the directory, and nothing else is. -/
def Unpacked (v : Provisioner) (t : FileTree) : Prop :=
  v.layout.Unmarked t ∧ ∃ k, t.LeadsTo v.layout.execDir k

/-- There is no marker before any of these steps, and nothing but payloads before the script. -/
def Bare (v : Provisioner) : List SetupStep → FileTree → Prop
  | [], _ => True
  | step :: steps, t =>
    t.isFile v.layout.marker = false ∧ (step = .script → v.Unpacked t) ∧
      ∀ t', v.After t t' step → Bare v steps t'

theorem after_of_onTree {step : SetupStep} (hstep : step ≠ .script) {t t' : FileTree}
    (h : step.onTree v t = (.ok (), t')) : v.After t t' step := by
  cases step with
  | script => exact absurd rfl hstep
  | _ => exact h

theorem after_of_step {step : SetupStep} (hspares : v.SparesMarker run)
    (hmarker : s.tree.isFile v.layout.marker = false) (h : v.step run step s = (.ok (), s')) :
    v.After s.tree s'.tree step := by
  by_cases hscript : step = .script
  · subst hscript
    rw [script_apply] at h
    obtain ⟨-, rfl⟩ := Prod.mk.inj h
    exact hspares s.runner s.tree hmarker
  · exact after_of_onTree hscript (onTree_of_step h hscript)

/-- Where there is no marker, nothing needs to be kept. -/
theorem keeps_of_bare (hspares : v.SparesMarker run) (h : v.Bare steps s.tree) :
    v.Keeps run steps s := by
  induction steps generalizing s with
  | nil => trivial
  | cons step steps ih =>
    obtain ⟨hmarker, -, hrest⟩ := h
    refine ⟨fun hvalid => ?_, fun s' hstep => ih (hrest s'.tree (after_of_step hspares hmarker hstep))⟩
    rw [Layout.isValid_of_no_marker hmarker] at hvalid
    cases hvalid

/-- From the script on there is no marker before the last step. -/
theorem bare_script {t : FileTree} (h : v.Unpacked t) : v.Bare [.script, .mark] t :=
  ⟨h.1.isFile_marker, fun _ => h, fun _ hscript => ⟨hscript, nofun, fun _ _ => trivial⟩⟩

theorem bare_extract {t : FileTree} {payloads : List Payload}
    (hnames : ∀ p ∈ payloads, FileTree.IsName p.name ∧ p.name ≠ Layout.markerName)
    (h : v.Unpacked t) : v.Bare (payloads.map .extract ++ [.script, .mark]) t := by
  induction payloads generalizing t with
  | nil => exact bare_script h
  | cons p payloads ih =>
    refine ⟨h.1.isFile_marker, nofun, fun t' hstep => ?_⟩
    obtain ⟨hname, hne⟩ := hnames p (List.mem_cons_self ..)
    have hwrites := p.writes_onTree v.layout.execDir t
    have htree : p.onTree v.layout.execDir t = (.ok (), t') := hstep
    rw [htree] at hwrites
    obtain ⟨hunmarked, k, hlead⟩ := h
    refine ih (fun q hq => hnames q (List.mem_cons_of_mem _ hq)) ⟨?_, k, ?_⟩
    · exact hunmarked.writes hname hne hwrites
    · exact hwrites.grows.keepsWays.leadsTo hlead

/-- Passes begin with an empty directory, and no payload is the marker. -/
structure StartsEmpty (v : Provisioner) : Prop where
  names : v.PlainNames
  path : v.layout.execDir.text ≠ ""
  renews : ∀ t, v.Renews t

/-- **After the first step** there is no marker until the last. -/
theorem StartsEmpty.bare_of_clear (h : v.StartsEmpty) {t t₁ : FileTree}
    (hclear : SetupStep.clear.onTree v t = (.ok (), t₁)) :
    v.Bare (.create :: (v.bundle.payloads.map .extract ++ [.script, .mark])) t₁ := by
  refine ⟨?_, nofun, fun t₂ hcreate => bare_extract h.names ⟨fun k hlead name e hget => ?_, ?_⟩⟩
  -- between the two steps there is no directory at all
  · rw [← Bool.not_eq_true]
    intro hfile
    obtain ⟨htakes, k, hlead, -⟩ := Layout.leadsTo_of_isFile_marker hfile
    have htakesDir := htakes.of_joinText FileTree.isName_markerName h.path
    have hdir := FileTree.isDirectory_iff.2 ⟨htakesDir, k, hlead⟩
    rw [isDirectory_of_clear_ok hclear] at hdir
    cases hdir
  · have hboth := SetupStep.allOnTree_pair_ok.2 ⟨t₁, hclear, hcreate⟩
    rw [h.renews t t₂ hboth k hlead _ (FileTree.isBelow_append_singleton k name)] at hget
    cases hget
  · exact leadsTo_of_create_ok h.path hcreate

/-- A directory that is empty after the first two steps keeps a pass steady. -/
theorem steady_of_startsEmpty (h : v.StartsEmpty) (hspares : v.SparesMarker run) :
    v.Steady run := by
  intro s hinvalid
  refine ⟨fun hvalid => ?_, fun s₁ hclear => keeps_of_bare hspares ?_⟩
  · rw [announced_tree, hinvalid] at hvalid
    cases hvalid
  · exact h.bare_of_clear (onTree_of_step hclear nofun)

/-- **A path without a `..`** keeps a pass steady, whatever else the script does. -/
theorem steady_of_no_up (hnames : v.PlainNames) (hspares : v.SparesMarker run)
    (hne : v.layout.execDir.text ≠ "") (hup : .up ∉ FileTree.moves v.layout.execDir) :
    v.Steady run :=
  steady_of_startsEmpty ⟨hnames, hne, renews_of_no_up hne hup⟩ hspares

end LintHub.Provisioner
