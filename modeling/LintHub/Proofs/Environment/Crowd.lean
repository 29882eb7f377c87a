import Mathlib.Data.List.Basic
import LintHub.Environment.Callers
import LintHub.Proofs.Environment.Pass

/-!
# Callers at once

Callers that share an environment take their steps in any order (`Reaches`). Whatever the
order, one of them at most has the lock (`Excluded`), and somebody can always go on until each
has its answer.

* `moves_of_move`: what one step can be.
* `Reaches.one_at_a_time`: one pass at a time.
* `Reaches.exists_answered`: every run can be brought to its end.
-/

namespace LintHub

variable {σ : Type}

namespace Caller

/-- Whether a caller has the lock. -/
def holdsLock : Caller → Bool
  | .holding | .settingUp _ | .leaving _ => true
  | _ => false

end Caller

namespace Crowd

variable {v : Provisioner} {run : Runner σ} {c c' : Crowd σ} {i j : Nat}

/-- What one step of a caller can be. -/
inductive Moves (v : Provisioner) (run : Runner σ) (c : Crowd σ) (i : Nat) : Crowd σ → Prop
  /-- It finds the environment ready, without the lock. -/
  | found (at_ : c.callers[i]? = some .arriving)
    (valid : v.layout.isValid c.session.tree = true) :
    Moves v run c i ⟨c.session, c.lock, c.callers.set i (.answered (.ok .already))⟩
  /-- It does not, and wants the lock. -/
  | wanted (at_ : c.callers[i]? = some .arriving)
    (invalid : v.layout.isValid c.session.tree = false) :
    Moves v run c i ⟨c.session, c.lock, c.callers.set i .waiting⟩
  /-- It takes the lock. -/
  | took (at_ : c.callers[i]? = some .waiting) (free : c.lock = none) :
    Moves v run c i ⟨c.session, some i, c.callers.set i .holding⟩
  /-- It finds the environment ready, with the lock. -/
  | spared (at_ : c.callers[i]? = some .holding)
    (valid : v.layout.isValid c.session.tree = true) :
    Moves v run c i ⟨c.session, c.lock, c.callers.set i (.leaving (.ok .already))⟩
  /-- It does not, and begins a pass. -/
  | began (at_ : c.callers[i]? = some .holding)
    (invalid : v.layout.isValid c.session.tree = false) :
    Moves v run c i
      ⟨v.announced c.session, c.lock, c.callers.set i (.settingUp v.bundle.setupSteps)⟩
  /-- It takes a step of the pass. -/
  | advanced {step : SetupStep} {steps : List SetupStep} {s : Session σ}
    (at_ : c.callers[i]? = some (.settingUp (step :: steps)))
    (done : v.step run step c.session = (.ok (), s)) :
    Moves v run c i ⟨s, c.lock, c.callers.set i (.settingUp steps)⟩
  /-- A step of the pass fails. -/
  | failed {step : SetupStep} {steps : List SetupStep} {s : Session σ} {e : ProvisionError}
    (at_ : c.callers[i]? = some (.settingUp (step :: steps)))
    (broken : v.step run step c.session = (.error e, s)) :
    Moves v run c i ⟨s, c.lock, c.callers.set i (.leaving (.error e))⟩
  /-- The pass is over. -/
  | finished (at_ : c.callers[i]? = some (.settingUp [])) :
    Moves v run c i
      ⟨c.session.tell .installed, c.lock, c.callers.set i (.leaving (.ok .provisioned))⟩
  /-- It gives the lock back. -/
  | left {r : Except ProvisionError Readiness} (at_ : c.callers[i]? = some (.leaving r)) :
    Moves v run c i ⟨c.session, none, c.callers.set i (.answered r)⟩

/-- **The steps of callers** are these. -/
theorem moves_of_move (h : c.move v run i = some c') : Moves v run c i c' := by
  unfold move at h
  split at h
  · rename_i hi
    cases h
    cases hv : v.layout.isValid c.session.tree with
    | true => exact .found hi hv
    | false => exact .wanted hi hv
  · rename_i hi
    split at h
    · rename_i hfree
      cases h
      exact .took hi hfree
    · cases h
  · rename_i hi
    cases hv : v.layout.isValid c.session.tree with
    | true =>
      rw [hv] at h
      cases h
      exact .spared hi hv
    | false =>
      rw [hv] at h
      simp only [Bool.false_eq_true, if_false, Provisioner.announce_apply] at h
      cases h
      exact .began hi hv
  · rename_i step steps hi
    rcases hstep : v.step run step c.session with ⟨e | _, s⟩
    · simp only [hstep] at h
      cases h
      exact .failed hi hstep
    · simp only [hstep] at h
      cases h
      exact .advanced hi hstep
  · rename_i hi
    simp only [Session.emit_apply] at h
    cases h
    exact .finished hi
  · rename_i hi
    cases h
    exact .left hi
  · cases h
  · cases h

/-- A crowd comes out of another by steps of callers, in any order. -/
inductive Reaches (v : Provisioner) (run : Runner σ) (c : Crowd σ) : Crowd σ → Prop
  | refl : Reaches v run c c
  | step {c' c'' : Crowd σ} {i : Nat} (before : Reaches v run c c')
    (move : c'.move v run i = some c'') : Reaches v run c c''

/-- A caller that does not wait and has no answer can go on. -/
theorem exists_move_of_free (v : Provisioner) (run : Runner σ) {x : Caller}
    (hi : c.callers[i]? = some x) (hx : x.isAnswered = false)
    (hwait : x = .waiting → c.lock = none) :
    ∃ c', c.move v run i = some c' := by
  unfold move
  rw [hi]
  cases x with
  | arriving => exact ⟨_, rfl⟩
  | waiting =>
    rw [hwait rfl]
    exact ⟨_, rfl⟩
  | holding =>
    cases v.layout.isValid c.session.tree with
    | true => exact ⟨_, rfl⟩
    | false => exact ⟨_, rfl⟩
  | settingUp steps =>
    cases steps with
    | nil => exact ⟨_, rfl⟩
    | cons step steps =>
      simp only
      rcases v.step run step c.session with ⟨e | _, s⟩
      · exact ⟨_, rfl⟩
      · exact ⟨_, rfl⟩
  | leaving r => exact ⟨_, rfl⟩
  | answered r => cases hx

namespace Reaches

variable {c₀ : Crowd σ}

/-- One step more, if the caller can take one. -/
theorem move_or_stay (h : Reaches v run c₀ c) (i : Nat) :
    Reaches v run c₀ ((c.move v run i).getD c) := by
  cases hmove : c.move v run i with
  | none => exact h
  | some c' => exact h.step hmove

/-- To let each caller in turn do what it can is one order of many. -/
theorem sweep (h : Reaches v run c₀ c) : Reaches v run c₀ (c.sweep v run) := by
  unfold Crowd.sweep
  generalize List.range c.callers.length = order
  induction order generalizing c with
  | nil => exact h
  | cons i order ih => exact ih (h.move_or_stay i)

theorem settleWithin (h : Reaches v run c₀ c) (n : Nat) :
    Reaches v run c₀ (settleWithin v run n c) := by
  induction n generalizing c with
  | zero => exact h
  | succ n ih =>
    unfold Crowd.settleWithin
    split
    · exact h
    · exact ih h.sweep

end Reaches

/-- The lock names the caller that has it, if any. -/
def Excluded (c : Crowd σ) : Prop :=
  ∀ i, c.lock = some i ↔ ∃ x, c.callers[i]? = some x ∧ x.holdsLock = true

namespace Excluded

theorem gather (s : Session σ) (n : Nat) : (gather s n).Excluded := by
  intro i
  have hnone : (Crowd.gather s n).lock ≠ some i := nofun
  refine iff_of_false hnone ?_
  rintro ⟨x, hx, hholds⟩
  rw [Crowd.gather, List.getElem?_replicate] at hx
  split at hx
  · cases hx
    cases hholds
  · cases hx

theorem lock_eq (h : c.Excluded) {x : Caller} (hi : c.callers[i]? = some x)
    (hx : x.holdsLock = true) : c.lock = some i :=
  (h i).2 ⟨x, hi, hx⟩

/-- Two callers that have the lock are one. -/
theorem unique (h : c.Excluded) {x y : Caller} (hi : c.callers[i]? = some x)
    (hx : x.holdsLock = true) (hj : c.callers[j]? = some y) (hy : y.holdsLock = true) : i = j := by
  have hlock := h.lock_eq hi hx
  rw [h.lock_eq hj hy] at hlock
  exact (Option.some.inj hlock).symm

/-- Exclusion sees of a caller only whether it has the lock. -/
theorem set (h : c.Excluded) {x y : Caller} (hi : c.callers[i]? = some x)
    (hxy : y.holdsLock = x.holdsLock) (s : Session σ) :
    Excluded ⟨s, c.lock, c.callers.set i y⟩ := by
  intro j
  have hlt := (List.getElem?_eq_some_iff.1 hi).1
  simp only
  rw [h j, List.getElem?_set]
  by_cases hij : i = j
  · subst hij
    rw [if_pos rfl, if_pos hlt, hi]
    simp [hxy]
  · simp [hij]

/-- A caller takes the free lock. -/
theorem take (h : c.Excluded) (hfree : c.lock = none) {x y : Caller}
    (hi : c.callers[i]? = some x) (hy : y.holdsLock = true) :
    Excluded ⟨c.session, some i, c.callers.set i y⟩ := by
  intro j
  have hlt := (List.getElem?_eq_some_iff.1 hi).1
  simp only
  rw [List.getElem?_set]
  by_cases hij : i = j
  · subst hij
    simp [hlt, hy]
  · have hnot := h j
    rw [hfree] at hnot
    simp only [hij, Option.some.injEq, if_false, false_iff]
    exact fun hholds => nomatch hnot.2 hholds

/-- The caller that has the lock gives it back. -/
theorem giveBack (h : c.Excluded) {x y : Caller} (hi : c.callers[i]? = some x)
    (hx : x.holdsLock = true) (hy : y.holdsLock = false) :
    Excluded ⟨c.session, none, c.callers.set i y⟩ := by
  intro j
  simp only [reduceCtorEq, false_iff]
  rintro ⟨z, hz, hholds⟩
  rw [List.getElem?_set] at hz
  split at hz
  · split at hz
    · cases hz
      rw [hy] at hholds
      cases hholds
    · cases hz
  · rename_i hne
    exact hne (h.unique hi hx hz hholds)

/-- **Each step keeps to the lock.** -/
theorem moves (h : c.Excluded) (hmove : Moves v run c i c') : c'.Excluded := by
  cases hmove with
  | found at_ => exact h.set at_ (by rfl) _
  | wanted at_ => exact h.set at_ (by rfl) _
  | took at_ free => exact h.take free at_ rfl
  | spared at_ => exact h.set at_ (by rfl) _
  | began at_ => exact h.set at_ (by rfl) _
  | advanced at_ => exact h.set at_ (by rfl) _
  | failed at_ => exact h.set at_ (by rfl) _
  | finished at_ => exact h.set at_ (by rfl) _
  | left at_ => exact h.giveBack at_ rfl rfl

/-- **As long as a caller has no answer**, somebody can go on: the one that has the lock, if
there is one. -/
theorem exists_move (h : c.Excluded) (v : Provisioner) (run : Runner σ)
    (hopen : c.callers.all Caller.isAnswered = false) : ∃ i c', c.move v run i = some c' := by
  obtain ⟨x, hmem, hx⟩ := List.all_eq_false.1 hopen
  obtain ⟨i, hi⟩ := List.mem_iff_getElem?.1 hmem
  rw [Bool.not_eq_true] at hx
  cases hlock : c.lock with
  | none => exact ⟨i, exists_move_of_free v run hi hx fun _ => hlock⟩
  | some j =>
    -- the one that has the lock does not wait and has no answer
    obtain ⟨y, hj, hy⟩ := (h j).1 hlock
    refine ⟨j, exists_move_of_free v run hj ?_ ?_⟩
    · cases y <;> first | rfl | cases hy
    · rintro rfl
      cases hy

end Excluded

theorem Reaches.excluded {c₀ : Crowd σ} (h : Reaches v run c₀ c) (h₀ : c₀.Excluded) :
    c.Excluded := by
  induction h with
  | refl => exact h₀
  | step _ move ih => exact ih.moves (moves_of_move move)

/-- **One pass at a time**: two callers in a pass are one. -/
theorem Reaches.one_at_a_time {s : Session σ} {n : Nat} (h : Reaches v run (gather s n) c)
    {steps steps' : List SetupStep} (hi : c.callers[i]? = some (.settingUp steps))
    (hj : c.callers[j]? = some (.settingUp steps')) : i = j :=
  (h.excluded (.gather s n)).unique hi rfl hj rfl

/-- How many steps a caller has before it at most. -/
def stepsLeft (v : Provisioner) : Caller → Nat
  | .arriving => v.bundle.setupSteps.length + 5
  | .waiting => v.bundle.setupSteps.length + 4
  | .holding => v.bundle.setupSteps.length + 3
  | .settingUp steps => steps.length + 2
  | .leaving _ => 1
  | .answered _ => 0

theorem split_set {cs : List Caller} {x : Caller} (h : cs[i]? = some x) :
    ∃ front back, cs = front ++ x :: back ∧ ∀ y, cs.set i y = front ++ y :: back := by
  obtain ⟨hlt, hx⟩ := List.getElem?_eq_some_iff.1 h
  refine ⟨cs.take i, cs.drop (i + 1), ?_, fun y => ?_⟩
  · rw [← hx, ← List.drop_eq_getElem_cons hlt, List.take_append_drop]
  · rw [List.set_eq_take_append_cons_drop, if_pos hlt]

/-- How many steps callers have before them at most. -/
def stepsAhead (v : Provisioner) : List Caller → Nat
  | [] => 0
  | x :: xs => stepsLeft v x + stepsAhead v xs

theorem stepsAhead_append (v : Provisioner) (xs ys : List Caller) :
    stepsAhead v (xs ++ ys) = stepsAhead v xs + stepsAhead v ys := by
  induction xs with
  | nil => exact (Nat.zero_add _).symm
  | cons x xs ih =>
    rw [List.cons_append, stepsAhead, stepsAhead, ih]
    omega

/-- **Each step leaves fewer steps** to take. -/
theorem Moves.stepsAhead_lt (h : Moves v run c i c') :
    stepsAhead v c'.callers < stepsAhead v c.callers := by
  -- only the caller that moves counts
  have hset {x y : Caller} (hi : c.callers[i]? = some x) (hlt : stepsLeft v y < stepsLeft v x) :
      stepsAhead v (c.callers.set i y) < stepsAhead v c.callers := by
    obtain ⟨front, back, hsplit, hset⟩ := split_set hi
    rw [hset, hsplit, stepsAhead_append, stepsAhead_append, stepsAhead, stepsAhead]
    omega
  cases h with
  | found at_ => exact hset at_ (by simp [stepsLeft])
  | wanted at_ => exact hset at_ (by simp [stepsLeft])
  | took at_ => exact hset at_ (by simp [stepsLeft])
  | spared at_ => exact hset at_ (by simp [stepsLeft])
  | began at_ => exact hset at_ (by simp [stepsLeft])
  | advanced at_ => exact hset at_ (by simp [stepsLeft])
  | failed at_ => exact hset at_ (by simp [stepsLeft])
  | finished at_ => exact hset at_ (by simp [stepsLeft])
  | left at_ => exact hset at_ (by simp [stepsLeft])

/-- **Every run can be brought to its end**, at which everybody has an answer. -/
theorem Reaches.exists_answered {c₀ : Crowd σ} (h : Reaches v run c₀ c) (h₀ : c₀.Excluded) :
    ∃ c', Reaches v run c₀ c' ∧ c'.callers.all Caller.isAnswered = true := by
  -- by the number of steps that are left
  induction hsteps : stepsAhead v c.callers using Nat.strongRecOn generalizing c with
  | _ steps ih =>
    cases hopen : c.callers.all Caller.isAnswered with
    | true => exact ⟨c, h, hopen⟩
    | false =>
      obtain ⟨i, c', hmove⟩ := (h.excluded h₀).exists_move v run hopen
      have hlt := (moves_of_move hmove).stepsAhead_lt
      exact ih _ (hsteps ▸ hlt) (h.step hmove) rfl

end Crowd
end LintHub
