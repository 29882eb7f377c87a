import LintHub.Environment.Throng
import LintHub.Proofs.Environment.InTurn

/-!
# Callers that may be interrupted anywhere

What one step of a caller can be, and what holds at every moment of every run. Only the caller
that has the lock changes anything but its own place, so a property of that caller and of the
files is one of all runs as soon as its own steps keep it (`Reaches.held`).

* `Reaches.uninterrupted`: a caller that nobody interrupts is served as by `ensureReady`.
-/

namespace LintHub

deriving instance DecidableEq for Onlooker

variable {σ : Type}

/-- What the files become, one after another, when the script runs. -/
def Provisioner.shown (v : Provisioner) (run : Runner σ) (stages : Stages σ) (state : σ)
    (t : FileTree) : List FileTree :=
  stages v.setupCall state t ++ [(run v.setupCall state t).2.2]

namespace Throng

open Provisioner (passAnswer verdict)

variable {v : Provisioner} {run : Runner σ} {stages : Stages σ} {t t' t₀ : Throng σ} {i j : Nat}

theorem advance_look (look : Look) (looks : List Look) (s : Session σ) :
    advance v run stages s (.looking (look :: looks)) =
      if v.layout.sees s.tree look then (s, .looking looks)
      else (v.announced s, .settingUp v.bundle.setupSteps) := by
  simp only [advance, Provisioner.announce_apply]

/-- Steps of setup other than the script are taken at once. -/
theorem advance_step {step : SetupStep} (h : step ≠ .script) (steps : List SetupStep)
    (s : Session σ) :
    advance v run stages s (.settingUp (step :: steps)) =
      match v.step run step s with
      | (.ok (), s) => (s, .settingUp steps)
      | (.error e, s) => (s, .leaving (.error e)) := by
  rcases hstep : v.step run step s with ⟨e | _, s'⟩
  · simp [advance, hstep]
  · simp [advance, hstep]

/-- The script only begins. What it will do to the files is known, but not yet done. -/
theorem advance_script (steps : List SetupStep) (s : Session σ) :
    advance v run stages s (.settingUp (.script :: steps)) =
      ({ s.afterLaunch run v.setupCall with tree := s.tree },
        .running (v.shown run stages s.runner s.tree)
          (verdict (run v.setupCall s.runner s.tree).1) steps) := by
  simp only [advance, Provisioner.script_apply]
  rfl

/-- What the next step of the caller with the lock can be. -/
inductive Advances (v : Provisioner) (run : Runner σ) (stages : Stages σ) (s : Session σ) :
    Holder → Session σ → Holder → Prop
  /-- It has seen enough. -/
  | satisfied : Advances v run stages s (.looking []) s (.leaving (.ok .already))
  /-- It looks, and sees what it should. -/
  | saw {look : Look} {looks : List Look} (seen : v.layout.sees s.tree look = true) :
    Advances v run stages s (.looking (look :: looks)) s (.looking looks)
  /-- It does not, and begins a pass. -/
  | missed {look : Look} {looks : List Look} :
    Advances v run stages s (.looking (look :: looks)) (v.announced s)
      (.settingUp v.bundle.setupSteps)
  /-- It has taken all steps of setup. -/
  | installed {s' : Session σ} (tree : s'.tree = s.tree) :
    Advances v run stages s (.settingUp []) s' (.leaving (.ok .provisioned))
  /-- It begins the script. What that will do to the files is known, but not yet done. -/
  | began {steps : List SetupStep} :
    Advances v run stages s (.settingUp (.script :: steps))
      { s.afterLaunch run v.setupCall with tree := s.tree }
      (.running (v.shown run stages s.runner s.tree)
        (verdict (run v.setupCall s.runner s.tree).1) steps)
  /-- It takes another step. -/
  | took {step : SetupStep} {steps : List SetupStep} {s' : Session σ} (other : step ≠ .script)
    (onTree : step.onTree v s.tree = (.ok (), s'.tree)) :
    Advances v run stages s (.settingUp (step :: steps)) s' (.settingUp steps)
  /-- That fails. -/
  | failed {step : SetupStep} {steps : List SetupStep} {s' : Session σ} {e : ProvisionError}
    (other : step ≠ .script) (onTree : step.onTree v s.tree = (.error e, s'.tree)) :
    Advances v run stages s (.settingUp (step :: steps)) s' (.leaving (.error e))
  /-- The script does something to the files. -/
  | changed {u : FileTree} {ahead : List FileTree} {r : Except ProvisionError Unit}
    {steps : List SetupStep} :
    Advances v run stages s (.running (u :: ahead) r steps) { s with tree := u }
      (.running ahead r steps)
  /-- The script has succeeded. -/
  | succeeded {steps : List SetupStep} :
    Advances v run stages s (.running [] (.ok ()) steps) s (.settingUp steps)
  /-- The script has failed. -/
  | broke {e : ProvisionError} {steps : List SetupStep} :
    Advances v run stages s (.running [] (.error e) steps) s (.leaving (.error e))

theorem advances_of_step {step : SetupStep} (h : step ≠ .script) (steps : List SetupStep)
    (s : Session σ) :
    Advances v run stages s (.settingUp (step :: steps))
      (advance v run stages s (.settingUp (step :: steps))).1
      (advance v run stages s (.settingUp (step :: steps))).2 := by
  obtain ⟨remarks, -, heq⟩ := Provisioner.step_apply v run h s
  rw [advance_step h, heq]
  rcases htree : step.onTree v s.tree with ⟨e | _, u⟩
  · exact .failed h htree
  · exact .took h htree

theorem advances (s : Session σ) {h : Holder} (hstays : ∀ r, h ≠ .leaving r) :
    Advances v run stages s h (advance v run stages s h).1 (advance v run stages s h).2 := by
  cases h with
  | looking looks =>
    cases looks with
    | nil => exact .satisfied
    | cons look looks =>
      rw [advance_look]
      split
      · exact .saw ‹_›
      · exact .missed
  | settingUp steps =>
    cases steps with
    | nil => exact .installed rfl
    | cons step steps =>
      by_cases hscript : step = .script
      · subst hscript
        rw [advance_script]
        exact .began
      · exact advances_of_step hscript steps s
  | running ahead r steps =>
    cases ahead with
    | nil =>
      cases r with
      | error e => exact .broke
      | ok _ => exact .succeeded
    | cons u ahead => exact .changed
  | leaving r => exact absurd rfl (hstays r)

/-- What one step of a caller can be. -/
inductive Moves (v : Provisioner) (run : Runner σ) (stages : Stages σ) (t : Throng σ) (i : Nat) :
    Throng σ → Prop
  /-- It has seen enough without the lock, and goes. -/
  | returned (at_ : t.callers[i]? = some (.looking [])) :
    Moves v run stages t i
      ⟨t.session, t.holder, t.callers.set i (.answered (.ok .already))⟩
  /-- It looks, and sees what it should. -/
  | saw {look : Look} {looks : List Look} (at_ : t.callers[i]? = some (.looking (look :: looks)))
    (seen : v.layout.sees t.session.tree look = true) :
    Moves v run stages t i ⟨t.session, t.holder, t.callers.set i (.looking looks)⟩
  /-- It does not, and wants the lock. -/
  | missed {look : Look} {looks : List Look}
    (at_ : t.callers[i]? = some (.looking (look :: looks)))
    (unseen : v.layout.sees t.session.tree look = false) :
    Moves v run stages t i ⟨t.session, t.holder, t.callers.set i .waiting⟩
  /-- It takes the lock. -/
  | took (at_ : t.callers[i]? = some .waiting) (free : t.holder = none) :
    Moves v run stages t i
      ⟨t.session, some (i, .looking Look.all), t.callers.set i .inside⟩
  /-- It gives the lock back, and goes. -/
  | left {r : Except ProvisionError Readiness} (at_ : t.callers[i]? = some .inside)
    (holds : t.holder = some (i, .leaving r)) :
    Moves v run stages t i ⟨t.session, none, t.callers.set i (.answered r)⟩
  /-- It goes on with the lock. -/
  | advanced {h h' : Holder} {s' : Session σ} (at_ : t.callers[i]? = some .inside)
    (holds : t.holder = some (i, h)) (next : Advances v run stages t.session h s' h') :
    Moves v run stages t i ⟨s', some (i, h'), t.callers⟩

theorem moves_of_move (h : t.move v run stages i = some t') : Moves v run stages t i t' := by
  unfold move at h
  split at h
  · rename_i hi
    cases h
    exact .returned hi
  · rename_i look looks hi
    cases h
    cases hsees : v.layout.sees t.session.tree look with
    | true => exact .saw hi hsees
    | false => exact .missed hi hsees
  · rename_i hi
    split at h
    · rename_i hfree
      cases h
      exact .took hi hfree
    · cases h
  · rename_i hi
    split at h
    · rename_i j r hholds
      split at h
      · rename_i hj
        subst hj
        cases h
        exact .left hi hholds
      · cases h
    · rename_i j x hstays hholds
      split at h
      · rename_i hj
        subst hj
        cases h
        exact .advanced hi hholds (advances t.session fun r hr => hstays r hr)
      · cases h
    · cases h
  · cases h
  · cases h

/-- The place of a caller after another place was changed, or its own. -/
theorem place_of_set {callers : List Onlooker} {x y : Onlooker}
    (h : (callers.set j x)[i]? = some y) : i = j ∧ y = x ∨ callers[i]? = some y := by
  rw [List.getElem?_set] at h
  split at h
  · rename_i hij
    split at h
    · exact .inl ⟨hij.symm, (Option.some.inj h).symm⟩
    · cases h
  · exact .inr h

/-- A caller that looks without the lock looked before, too, and may just have seen something. -/
theorem Moves.looking {looks : List Look} (h : Moves v run stages t j t')
    (hi : t'.callers[i]? = some (.looking looks)) :
    t.callers[i]? = some (.looking looks) ∨
      ∃ look, t.callers[i]? = some (.looking (look :: looks)) ∧
        v.layout.sees t.session.tree look = true ∧ t'.session = t.session := by
  cases h with
  | returned | missed | took | left =>
    rcases place_of_set hi with ⟨-, heq⟩ | hi
    · cases heq
    · exact .inl hi
  | saw at_ seen =>
    rcases place_of_set hi with ⟨rfl, heq⟩ | hi
    · cases heq
      exact .inr ⟨_, at_, seen, rfl⟩
    · exact .inl hi
  | advanced => exact .inl hi

/-- Only the caller that has the lock changes more than its own place. -/
theorem Moves.session (h : Moves v run stages t j t') :
    t'.session = t.session ∨
      ∃ x x', t.holder = some (j, x) ∧ Advances v run stages t.session x t'.session x' := by
  cases h with
  | returned | saw | missed | took | left => exact .inl rfl
  | advanced at_ holds next => exact .inr ⟨_, _, holds, next⟩

/-- A caller that has its answer just now has seen enough without the lock, or gives it back. -/
theorem Moves.answered {r : Except ProvisionError Readiness} (h : Moves v run stages t i t')
    (hi : t'.callers[i]? = some (.answered r)) :
    t.callers[i]? = some (.looking []) ∧ t'.session = t.session ∧ t'.holder = t.holder ∨
      t.callers[i]? = some .inside ∧ t.holder = some (i, .leaving r) ∧
        t'.session = t.session ∧ t'.holder = none := by
  -- a caller that moves had no answer yet
  have hnew {x : Onlooker} (hset : (t.callers.set i x)[i]? = some (.answered r))
      {y : Onlooker} (hy : t.callers[i]? = some y) : x = .answered r := by
    have hlt := (List.getElem?_eq_some_iff.1 hy).1
    rw [List.getElem?_set_self hlt] at hset
    exact Option.some.inj hset
  cases h with
  | returned at_ => exact .inl ⟨at_, rfl, rfl⟩
  | saw at_ => cases hnew hi at_
  | missed at_ => cases hnew hi at_
  | took at_ => cases hnew hi at_
  | left at_ holds =>
    cases hnew hi at_
    exact .inr ⟨at_, holds, rfl, rfl⟩
  | advanced at_ =>
    rw [at_] at hi
    cases hi

/-- A throng comes out of another by steps of callers, in any order. -/
inductive Reaches (v : Provisioner) (run : Runner σ) (stages : Stages σ) (t : Throng σ) :
    Throng σ → Prop
  | refl : Reaches v run stages t t
  | step {t' t'' : Throng σ} {i : Nat} (before : Reaches v run stages t t')
    (move : t'.move v run stages i = some t'') : Reaches v run stages t t''

theorem Reaches.follow (order : List Nat) (h : Reaches v run stages t₀ t) :
    Reaches v run stages t₀ (t.follow v run stages order) := by
  induction order generalizing t with
  | nil => exact h
  | cons i order ih =>
    refine ih ?_
    simp only
    cases hmove : t.move v run stages i with
    | none => exact h
    | some t' => exact h.step hmove

/-- **What the caller with the lock keeps**, from its first look on, holds in every run. -/
theorem Reaches.held {I : Session σ → Holder → Prop} {s : Session σ} {n : Nat}
    (hlook : ∀ s, I s (.looking Look.all))
    (hadvance : ∀ {s h s' h'}, I s h → Advances v run stages s h s' h' → I s' h')
    (h : Reaches v run stages (gather s n) t) {x : Holder} (hx : t.holder = some (i, x)) :
    I t.session x := by
  induction h generalizing i x with
  | refl => cases hx
  | @step t t' j _ move ih =>
    cases moves_of_move move with
    | returned => exact ih hx
    | saw => exact ih hx
    | missed => exact ih hx
    | took =>
      cases hx
      exact hlook t.session
    | left => cases hx
    | advanced at_ holds next =>
      cases hx
      exact hadvance (ih holds) next

theorem isValid_eq_all (l : Layout) (t : FileTree) : l.isValid t = Look.all.all (l.sees t) := by
  simp [Layout.isValid, Look.all, Layout.sees, Bool.and_assoc]

section Uninterrupted

variable {s s' : Session σ} {callers : List Onlooker} {holder : Option (Nat × Holder)}

/-- Without the lock a caller goes if it sees everything, and else wants the lock. -/
theorem Reaches.lookOn {looks : List Look} (h : Reaches v run stages t₀ ⟨s, holder, callers⟩)
    (hi : callers[i]? = some (.looking looks)) :
    Reaches v run stages t₀ ⟨s, holder, callers.set i
      (if looks.all (v.layout.sees s.tree) then .answered (.ok .already) else .waiting)⟩ := by
  have hlt := (List.getElem?_eq_some_iff.1 hi).1
  induction looks generalizing callers with
  | nil =>
    refine h.step (i := i) ?_
    simp [move, hi]
  | cons look looks ih =>
    cases hsees : v.layout.sees s.tree look with
    | false =>
      refine h.step (i := i) ?_
      simp [move, hi, hsees]
    | true =>
      have hnext : Reaches v run stages t₀ ⟨s, holder, callers.set i (.looking looks)⟩ := by
        refine h.step (i := i) ?_
        simp [move, hi, hsees]
      have hrest := ih hnext (List.getElem?_set_self hlt) (by simpa using hlt)
      rw [List.set_set] at hrest
      rw [List.all_cons, hsees, Bool.true_and]
      exact hrest

variable (hi : callers[i]? = some .inside)

include hi

/-- The next step of the caller that has the lock. -/
theorem Reaches.advance {h : Holder} (hreach : Reaches v run stages t₀ ⟨s, some (i, h), callers⟩)
    (hstays : ∀ r, h ≠ .leaving r) :
    Reaches v run stages t₀
      ⟨(advance v run stages s h).1, some (i, (advance v run stages s h).2), callers⟩ := by
  refine hreach.step (i := i) ?_
  unfold move
  simp only [hi]
  cases h with
  | leaving r => exact absurd rfl (hstays r)
  | _ => simp

/-- With the lock it leaves if it sees everything, and else sets up the environment. -/
theorem Reaches.lookAgain {looks : List Look}
    (h : Reaches v run stages t₀ ⟨s, some (i, .looking looks), callers⟩) :
    Reaches v run stages t₀
      (if looks.all (v.layout.sees s.tree) then ⟨s, some (i, .leaving (.ok .already)), callers⟩
      else ⟨v.announced s, some (i, .settingUp v.bundle.setupSteps), callers⟩) := by
  induction looks with
  | nil => exact h.advance hi nofun
  | cons look looks ih =>
    have hnext := h.advance hi nofun
    cases hsees : v.layout.sees s.tree look with
    | false => simpa [advance_look, hsees] using hnext
    | true =>
      have hrest := ih (by simpa [advance_look, hsees] using hnext)
      simpa [hsees] using hrest

/-- A script goes on to its end. -/
theorem Reaches.runOn {ahead : List FileTree} {u : FileTree} {r : Except ProvisionError Unit}
    {steps : List SetupStep} {tree : FileTree}
    (h : Reaches v run stages t₀ ⟨{ s with tree }, some (i, .running (ahead ++ [u]) r steps), callers⟩) :
    Reaches v run stages t₀ ⟨{ s with tree := u }, some (i, .running [] r steps), callers⟩ := by
  induction ahead generalizing tree with
  | nil => exact h.advance hi nofun
  | cons u' ahead ih => exact ih (h.advance hi nofun)

/-- The steps that are left of a pass. -/
theorem Reaches.finish {steps : List SetupStep}
    (h : Reaches v run stages t₀ ⟨s, some (i, .settingUp steps), callers⟩) :
    Reaches v run stages t₀ ⟨(v.finish run steps s).2,
      some (i, .leaving (passAnswer (v.finish run steps s).1)), callers⟩ := by
  induction steps generalizing s with
  | nil => exact h.advance hi nofun
  | cons step steps ih =>
    rw [Provisioner.finish_cons]
    have hnext := h.advance hi nofun
    by_cases hscript : step = .script
    · subst hscript
      rw [advance_script] at hnext
      have hend := Reaches.runOn hi hnext
      rw [Provisioner.script_apply]
      generalize verdict (run v.setupCall s.runner s.tree).1 = r at hend ⊢
      cases r with
      | error e => exact hend.advance hi nofun
      | ok _ => exact ih (hend.advance hi nofun)
    · rw [advance_step hscript] at hnext
      rcases hstep : v.step run step s with ⟨e | _, s'⟩
      · rw [hstep] at hnext
        exact hnext
      · rw [hstep] at hnext
        exact ih hnext

omit hi in
/-- **A caller that nobody interrupts** is served as by `ensureReady`, whatever the script shows
while it runs. -/
theorem Reaches.uninterrupted (h : Reaches v run stages t₀ ⟨s, none, callers⟩)
    (hi : callers[i]? = some (.looking Look.all)) :
    Reaches v run stages t₀ ⟨(v.ensureReady run s).2, none,
      callers.set i (.answered (v.ensureReady run s).1)⟩ := by
  have hlt := (List.getElem?_eq_some_iff.1 hi).1
  have hlook := h.lookOn hi
  rw [← isValid_eq_all] at hlook
  cases hvalid : v.layout.isValid s.tree with
  | true =>
    rw [Provisioner.ensureReady_of_isValid hvalid]
    rwa [if_pos hvalid] at hlook
  | false =>
    rw [Provisioner.ensureReady_eq_passAnswer hvalid, Provisioner.reprovision_apply]
    rw [hvalid] at hlook
    -- it takes the lock, and sees what it has seen before
    have htook : Reaches v run stages t₀
        ⟨s, some (i, .looking Look.all), callers.set i .inside⟩ := by
      refine hlook.step (i := i) ?_
      simp [move, hlt]
    have hinside : (callers.set i .inside)[i]? = some .inside := List.getElem?_set_self hlt
    have hagain := htook.lookAgain hinside
    rw [← isValid_eq_all, hvalid] at hagain
    have hdone := Reaches.finish hinside hagain
    refine hdone.step (i := i) ?_
    simp [move, hlt]

end Uninterrupted

end Throng
end LintHub
