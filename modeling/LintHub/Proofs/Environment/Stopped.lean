import LintHub.Proofs.Environment.Failure
import LintHub.Proofs.FileTree.Along

/-!
# Passes that the system stops

A change of files may fail for a reason that the files do not show: rights are missing, the disk
is full, a mount is busy. What has been done by then stays done. `SetupStep.Stops` says of each
step what it may leave when the system stops it, and in `Provisioner.Finishes` a pass goes step
by step until it is over, or a step fails, or a step is stopped. The pass that is not stopped is
`finish` (`finishes_finish`), and only that one succeeds (`Finishes.eq_of_ok`).

* `Finishes.leads`: what a pass that failed has told and started, stopped or not.
* `Finishes.isFile_marker`: in a directory that is renewed a pass that failed leaves no marker,
  unless it was stopped while it removed the old directory or while it wrote the marker.
* `Finishes.of_clear`, `Finishes.of_mark`: what it leaves in these two cases.
* `Finishes.grows`: behind the removal nothing is taken away, wherever a pass is stopped.
-/

namespace LintHub

variable {σ : Type}

namespace FileTree.RemovesPart

variable {t t' : FileTree} {k : Place}

theorem grows (h : t.RemovesPart k t') : t'.Grows t := by
  refine grows_of_sub h.here fun l => ?_
  rcases h.left l with hkept | ⟨-, hgone⟩
  · exact .inr hkept
  · exact .inl hgone

/-- A removal that did not even begin. -/
theorem refl (t : FileTree) (k : Place) : t.RemovesPart k t := ⟨rfl, fun _ => .inl rfl⟩

end FileTree.RemovesPart

/-- The error of a step that the system stops, and what the step may leave. -/
inductive SetupStep.Stops (v : Provisioner) (t : FileTree) :
    SetupStep → ProvisionError → FileTree → Prop
  /-- Of the old directory some is left. -/
  | clear {k : Place} {e : Entry} {t' : FileTree} (cause : FileError)
    (there : t.exists? v.layout.execDir = true)
    (found : t.find? false v.layout.execDir = .ok (k, e)) (part : t.RemovesPart k t') :
    Stops v t .clear (.file v.layout.execDir cause) t'
  /-- Some directories on the way are made, but the last one is not there: else all is well,
  whatever went wrong. For the empty path nothing is done. -/
  | create {t' : FileTree} (cause : FileError) (named : v.layout.execDir.text ≠ "")
    (made : t.MadeAlong v.layout.execDir t') (missing : t'.isDirectory v.layout.execDir = false) :
    Stops v t .create (.file v.layout.execDir cause) t'
  /-- There is a file, and anything in it. -/
  | extract {t' : FileTree} (p : Payload) (cause : FileError)
    (wrote : t.Writes (v.layout.execDir.joinText p.name) t') :
    Stops v t (.extract p) (.file (v.layout.execDir.joinText p.name) cause) t'
  /-- There is a marker, and anything in it. -/
  | mark {t' : FileTree} (cause : FileError) (wrote : t.Writes v.layout.marker t') :
    Stops v t .mark (.file v.layout.marker cause) t'

/-- Only the removal takes anything away. -/
theorem SetupStep.Stops.grows {v : Provisioner} {t t' : FileTree} {step : SetupStep}
    {e : ProvisionError} (h : step.Stops v t e t') (hstep : step ≠ .clear) : t.Grows t' := by
  cases h with
  | clear => exact absurd rfl hstep
  | create _ _ made => exact made.adds.grows
  | extract _ _ wrote => exact wrote.grows
  | mark _ wrote => exact wrote.grows

namespace Provisioner

/-- How the steps that are left of a pass may end, with the step that was stopped, if any. -/
inductive Finishes (v : Provisioner) (run : Runner σ) :
    List SetupStep → Session σ → Option SetupStep → Except ProvisionError Unit → Session σ → Prop
  /-- Nothing is left to do. -/
  | ends (s : Session σ) : Finishes v run [] s none (.ok ()) (s.tell .installed)
  /-- A step fails by itself. -/
  | fails {step : SetupStep} {steps : List SetupStep} {s s' : Session σ} {e : ProvisionError}
    (failed : v.step run step s = (.error e, s')) :
    Finishes v run (step :: steps) s none (.error e) s'
  /-- A step is stopped. -/
  | stopped {step : SetupStep} {steps : List SetupStep} {s : Session σ} {e : ProvisionError}
    {t : FileTree} (stops : step.Stops v s.tree e t) :
    Finishes v run (step :: steps) s (some step) (.error e) { s with tree := t }
  /-- A step succeeds, and the pass goes on. -/
  | goes {step : SetupStep} {steps : List SetupStep} {s s₁ s' : Session σ}
    {stop : Option SetupStep} {r : Except ProvisionError Unit}
    (done : v.step run step s = (.ok (), s₁)) (rest : Finishes v run steps s₁ stop r s') :
    Finishes v run (step :: steps) s stop r s'

variable {v : Provisioner} {run : Runner σ} {steps : List SetupStep} {s s' : Session σ}
  {stop : Option SetupStep} {r : Except ProvisionError Unit} {e : ProvisionError}

/-- The system may stop nothing. -/
theorem finishes_finish (v : Provisioner) (run : Runner σ) (steps : List SetupStep)
    (s : Session σ) :
    v.Finishes run steps s none (v.finish run steps s).1 (v.finish run steps s).2 := by
  induction steps generalizing s with
  | nil => exact .ends s
  | cons step steps ih =>
    rw [finish_cons]
    rcases hstep : v.step run step s with ⟨e | _, s₁⟩
    · exact .fails hstep
    · exact .goes hstep (ih s₁)

namespace Finishes

theorem mem_of_stop {step : SetupStep} (h : v.Finishes run steps s (some step) r s') :
    step ∈ steps := by
  generalize hstop : some step = stop at h
  induction h with
  | ends => cases hstop
  | fails => cases hstop
  | stopped =>
    cases hstop
    exact List.mem_cons_self ..
  | goes _ _ ih => exact List.mem_cons_of_mem _ (ih hstop)

/-- **A pass that was not stopped** is the one that the steps determine. -/
theorem eq_of_not_stopped (h : v.Finishes run steps s none r s') :
    v.finish run steps s = (r, s') := by
  generalize hstop : none = stop at h
  induction h with
  | ends => rfl
  | fails failed => rw [finish_cons, failed]
  | stopped => cases hstop
  | goes done _ ih =>
    rw [finish_cons, done]
    exact ih hstop

/-- **A pass that succeeds** was not stopped. -/
theorem eq_of_ok (h : v.Finishes run steps s stop (.ok ()) s') :
    stop = none ∧ v.finish run steps s = (.ok (), s') := by
  generalize hr : Except.ok () = r at h
  have hstop : stop = none := by
    induction h with
    | ends => rfl
    | fails => cases hr
    | stopped => cases hr
    | goes _ _ ih => exact ih hr
  subst hstop
  exact ⟨rfl, h.eq_of_not_stopped⟩

/-- A pass that is stopped has done all the steps before. -/
theorem behind {step : SetupStep} {done : List SetupStep} (hstep : step ∉ done)
    (h : v.Finishes run (done ++ steps) s (some step) r s') :
    ∃ s₁, (∀ later, v.finish run (done ++ later) s = v.finish run later s₁) ∧
      v.Finishes run steps s₁ (some step) r s' := by
  induction done generalizing s with
  | nil => exact ⟨s, fun _ => rfl, h⟩
  | cons first done ih =>
    rw [List.mem_cons, not_or] at hstep
    rw [List.cons_append] at h
    cases h with
    | stopped => exact absurd rfl hstep.1
    | goes hfirst rest =>
      obtain ⟨s₁, hdone, hrest⟩ := ih hstep.2 rest
      refine ⟨s₁, fun later => ?_, hrest⟩
      rw [List.cons_append, finish_cons, hfirst]
      exact hdone later

/-- **A pass that failed** has told nothing more, and has started the script at most as often as
the script is among its steps. -/
theorem leads (h : v.Finishes run steps s stop (.error e) s') :
    ∃ n ≤ steps.count .script, s.Leads s' [] (List.replicate n v.setupCall) := by
  generalize hr : Except.error e = r at h
  induction h with
  | ends => cases hr
  | @fails step steps s s' _ failed =>
    have hstep := step_starts v run step s
    rw [failed] at hstep
    refine ⟨_, ?_, hstep⟩
    rw [count_script_cons step steps]
    exact Nat.le_add_right _ _
  | @stopped step steps s e t _ => exact ⟨0, Nat.zero_le _, ⟨by simp [Session.events], by simp⟩⟩
  | @goes step steps s s₁ s' stop r done _ ih =>
    have hstep := step_starts v run step s
    rw [done] at hstep
    obtain ⟨n, hn, hlead⟩ := ih hr
    refine ⟨[step].count .script + n, ?_, ?_⟩
    · rw [count_script_cons step steps]
      exact Nat.add_le_add_left hn _
    · rw [← List.replicate_append_replicate]
      exact hstep.trans hlead

/-- **From the removal on** nothing is taken away, wherever the pass is stopped. -/
theorem grows (hadds : v.OnlyAdds run) (h : v.Finishes run steps s stop r s')
    (hsteps : .clear ∉ steps) : s.tree.Grows s'.tree := by
  induction h with
  | ends s => exact .refl s.tree
  | @fails step steps s s' _ failed =>
    have hgrows := step_grows hadds (List.ne_of_not_mem_cons hsteps).symm s
    rw [failed] at hgrows
    exact hgrows
  | stopped stops => exact stops.grows (List.ne_of_not_mem_cons hsteps).symm
  | @goes step steps s s₁ s' stop r done _ ih =>
    have hgrows := step_grows hadds (List.ne_of_not_mem_cons hsteps).symm s
    rw [done] at hgrows
    exact hgrows.trans (ih (List.not_mem_of_not_mem_cons hsteps))

/-- Behind the first two steps nothing leaves a marker but the last one. -/
theorem isFile_marker_of_unmarked {payloads : List Payload}
    (hnames : ∀ p ∈ payloads, FileTree.IsName p.name ∧ p.name ≠ Layout.markerName)
    (hspares : v.SparesMarker run)
    (h : v.Finishes run (payloads.map .extract ++ [.script, .mark]) s stop (.error e) s')
    (hmark : stop ≠ some .mark) (hunmarked : v.layout.Unmarked s.tree) :
    s'.tree.isFile v.layout.marker = false := by
  induction payloads generalizing s with
  | nil =>
    have hscript := hspares s.runner s.tree hunmarked.isFile_marker
    cases h with
    | fails failed =>
      rw [script_apply] at failed
      obtain ⟨-, rfl⟩ := Prod.mk.inj failed
      exact hscript
    | stopped stops => cases stops
    | goes done rest =>
      rw [script_apply] at done
      obtain ⟨-, rfl⟩ := Prod.mk.inj done
      cases rest with
      | fails failed =>
        -- what fails here by itself changes nothing
        have hfailed := onTree_of_step failed nofun
        have htree : (v.mark (s.afterLaunch run v.setupCall).tree).2 = s'.tree :=
          congrArg Prod.snd hfailed
        rw [← htree, mark_error (congrArg Prod.fst hfailed)]
        exact hscript
      | stopped => exact absurd rfl hmark
      | goes _ rest => cases rest
  | cons p payloads ih =>
    obtain ⟨hname, hne⟩ := hnames p (List.mem_cons_self ..)
    have hkept {t : FileTree} (hwrote : s.tree.Writes (v.layout.execDir.joinText p.name) t) :
        v.layout.Unmarked t := hunmarked.writes hname hne hwrote
    have hextracted : s.tree.Writes (v.layout.execDir.joinText p.name)
        (SetupStep.onTree v (.extract p) s.tree).2 := p.writes_onTree v.layout.execDir s.tree
    rw [List.map_cons, List.cons_append] at h
    cases h with
    | fails failed =>
      rw [congrArg Prod.snd (onTree_of_step failed nofun)] at hextracted
      exact (hkept hextracted).isFile_marker
    | stopped stops =>
      cases stops with
      | extract _ _ wrote => exact (hkept wrote).isFile_marker
    | goes done rest =>
      rw [congrArg Prod.snd (onTree_of_step done nofun)] at hextracted
      exact ih (fun q hq => hnames q (List.mem_cons_of_mem _ hq)) rest (hkept hextracted)

/-- **A pass that failed leaves no marker** in a directory that is renewed, unless it was stopped
while it removed the old directory or wrote the marker. -/
theorem isFile_marker (hnames : v.PlainNames) (hspares : v.SparesMarker run)
    (h : v.Finishes run v.bundle.setupSteps s stop (.error e) s') (hclear : stop ≠ some .clear)
    (hmark : stop ≠ some .mark) (hrenews : v.Renews s.tree) :
    s'.tree.isFile v.layout.marker = false := by
  cases h with
  | fails failed => exact isFile_marker_of_clear_error (onTree_of_step failed nofun)
  | stopped => exact absurd rfl hclear
  | goes cleared rest =>
    have hcleared := onTree_of_step cleared nofun
    cases rest with
    | fails failed => exact isFile_marker_of_create_error (onTree_of_step failed nofun)
    | stopped stops =>
      cases stops with
      | create _ named _ missing => exact Layout.isFile_marker_of_not_isDirectory named missing
    | goes created rest =>
      have hcreated := onTree_of_step created nofun
      have hempty := hrenews _ (SetupStep.allOnTree_pair_ok.2 ⟨_, hcleared, hcreated⟩)
      refine rest.isFile_marker_of_unmarked hnames hspares hmark fun k hlead name e hget => ?_
      rw [hempty k hlead _ (FileTree.isBelow_append_singleton k name)] at hget
      cases hget

/-- **A marker that has been uncovered** is still there after the pass, whatever becomes of it,
if the script takes nothing away. -/
theorem isFile_marker_of_uncovered {t : FileTree} (hadds : v.OnlyAdds run)
    (h : v.Finishes run v.bundle.setupSteps s stop r s') (hclear : stop ≠ some .clear)
    (hcreate : stop ≠ some .create)
    (hmade : SetupStep.allOnTree v [.clear, .create] s.tree = (.ok (), t))
    (hfile : t.isFile v.layout.marker = true) : s'.tree.isFile v.layout.marker = true := by
  obtain ⟨t₁, hcleared, hcreated⟩ := SetupStep.allOnTree_pair_ok.1 hmade
  cases h with
  | fails failed =>
    rw [onTree_of_step failed nofun] at hcleared
    cases hcleared
  | stopped => exact absurd rfl hclear
  | goes cleared rest =>
    rw [onTree_of_step cleared nofun] at hcleared
    cases hcleared
    cases rest with
    | fails failed =>
      rw [onTree_of_step failed nofun] at hcreated
      cases hcreated
    | stopped => exact absurd rfl hcreate
    | goes created rest =>
      rw [onTree_of_step created nofun] at hcreated
      cases hcreated
      exact (rest.grows hadds (by simp)).isFile hfile

/-- A pass that was stopped while it removed the old directory has done nothing else. -/
theorem of_clear (h : v.Finishes run v.bundle.setupSteps s (some .clear) r s') :
    (∃ cause, r = .error (.file v.layout.execDir cause)) ∧ s'.calls = s.calls ∧
      ∃ k e, s.tree.find? false v.layout.execDir = .ok (k, e) ∧ s.tree.RemovesPart k s'.tree := by
  cases h with
  | stopped stops =>
    cases stops with
    | clear cause _ found part => exact ⟨⟨cause, rfl⟩, rfl, _, _, found, part⟩
  | goes _ rest =>
    have hmem := rest.mem_of_stop
    simp at hmem

/-- One that was stopped while it wrote the marker has done everything else: the script has
reported success, and only the marker has been touched since. -/
theorem of_mark (h : v.Finishes run v.bundle.setupSteps s (some .mark) r s') :
    (∃ cause, r = .error (.file v.layout.marker cause)) ∧
      (v.prepare s.tree).1 = .ok () ∧ verdict (v.afterScript run s).1 = .ok () ∧
      s'.calls = s.calls ++ [v.setupCall] ∧
      (v.afterScript run s).2.2.Writes v.layout.marker s'.tree := by
  have hmem : .mark ∉ v.bundle.preparations ++ [.script] := by simp [Bundle.preparations]
  rw [Bundle.setupSteps_eq, ← List.singleton_append, ← List.append_assoc] at h
  obtain ⟨s₁, hdone, hlast⟩ := h.behind hmem
  -- the steps before are those of a pass that would have ended there
  have hover := hdone []
  rw [List.append_nil] at hover
  obtain ⟨hprepare, hverdict, hcalls, htree⟩ := of_finish_script hover
  cases hlast with
  | stopped stops =>
    cases stops with
    | mark cause wrote => exact ⟨⟨cause, rfl⟩, hprepare, hverdict, hcalls, htree ▸ wrote⟩
  | goes _ rest => exact absurd rest.mem_of_stop List.not_mem_nil

end Finishes

end Provisioner
end LintHub
