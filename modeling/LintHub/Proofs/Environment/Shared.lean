import LintHub.Proofs.Environment.Outlook
import LintHub.Proofs.Environment.Scripted

/-!
# Callers who share an environment

In whatever order callers take their steps, they are served as callers in turn are: there is
one pass at a time, passes go on until one leaves a valid environment or every caller has had
one, and all other callers find the environment ready (`served`).
-/

namespace LintHub

variable {σ : Type}

namespace Provisioner

variable {v : Provisioner} {run : Runner σ} {s : Session σ}

/-- A pass starts the script once if its preparations succeed, and else not at all. -/
theorem calls_reprovision (v : Provisioner) (run : Runner σ) (s : Session σ) :
    (v.reprovision run s).2.calls =
      s.calls ++ if (v.prepare s.tree).1.isOk then [v.setupCall] else [] := by
  cases hprepare : (v.prepare s.tree).1 with
  | error e =>
    rw [(reprovision_of_unprepared hprepare).2.2.2]
    exact (List.append_nil _).symm
  | ok _ =>
    cases hscript : verdict (v.afterScript run s).1 with
    | error e => exact (reprovision_of_script_error hprepare hscript).2.2.2
    | ok _ => exact (reprovision_of_script_ok hprepare hscript).2.2.2

/-- How many of so many passes start the script. -/
def starts (v : Provisioner) (run : Runner σ) (s : Session σ) (k : Nat) : Nat :=
  (List.range k).countP fun j => (v.prepare (v.afterPasses run j s).tree).1.isOk

theorem calls_afterPasses_eq (v : Provisioner) (run : Runner σ) (k : Nat) (s : Session σ) :
    (v.afterPasses run k s).calls = s.calls ++ List.replicate (v.starts run s k) v.setupCall := by
  induction k with
  | zero => simp [afterPasses, starts]
  | succ k ih =>
    -- the last pass starts the script or it does not
    have hstarts : v.starts run s (k + 1) = v.starts run s k +
        if (v.prepare (v.afterPasses run k s).tree).1.isOk then 1 else 0 := by
      rw [starts, List.range_succ, List.countP_append, List.countP_singleton]
      rfl
    rw [afterPasses_succ, calls_reprovision, ih, hstarts, List.append_assoc,
      ← List.replicate_append_replicate]
    split <;> rfl

/-- Regular passes start the script once each. -/
theorem starts_eq {k : Nat} (h : ∀ j < k, v.Regular run (v.afterPasses run j s)) :
    v.starts run s k = k := by
  unfold starts
  rw [List.countP_eq_length.2, List.length_range]
  intro j hj
  rw [(h j (List.mem_range.1 hj)).prepared]
  rfl

/-- How often callers in turn get an answer. -/
theorem countP_inTurn (v : Provisioner) (run : Runner σ) (n : Nat) (s : Session σ)
    (test : Except ProvisionError Readiness → Bool) :
    (v.inTurn run n s).1.countP test =
      ((List.range (v.passes run n s)).countP fun j => test (passAnswer (v.passResult run s j))) +
        if test (.ok .already) then n - v.passes run n s else 0 := by
  rw [inTurn_eq, List.countP_append, passAnswers, List.countP_map, List.countP_replicate]
  rfl

end Provisioner

namespace Crowd

open Provisioner (passAnswer)

variable {v : Provisioner} {run : Runner σ} {c : Crowd σ} {s : Session σ} {n : Nat}

/-- What callers have got when each has its answer. None of it depends on their order. -/
structure Served (v : Provisioner) (run : Runner σ) (s : Session σ) (n : Nat) (c : Crowd σ) :
    Prop where
  passes_le : v.passes run n s ≤ n
  session : c.session = v.afterPasses run (v.passes run n s) s
  calls : c.session.calls =
    s.calls ++ List.replicate (v.starts run s (v.passes run n s)) v.setupCall
  provisioned : c.countAnswers (fun r => r = .ok .provisioned) =
    (List.range (v.passes run n s)).countP fun j => (v.passResult run s j).isOk
  failed : c.countAnswers (fun r => !r.isOk) =
    (List.range (v.passes run n s)).countP fun j => !(v.passResult run s j).isOk
  already : c.countAnswers (fun r => r = .ok .already) = n - v.passes run n s

/-- Callers that are served as callers in turn are. -/
theorem served_of_inTurn (hsession : c.session = (v.inTurn run n s).2)
    (hanswers : ∀ test, c.countAnswers test = (v.inTurn run n s).1.countP test) :
    Served v run s n c := by
  rw [Provisioner.inTurn_eq] at hsession
  have hcount (test : Except ProvisionError Readiness → Bool) :=
    (hanswers test).trans (v.countP_inTurn run n s test)
  refine ⟨v.passes_le run n s, hsession, ?_, ?_, ?_, ?_⟩
  · rw [hsession]
    exact v.calls_afterPasses_eq run _ s
  · rw [hcount]
    simp only [reduceCtorEq, Except.ok.injEq, decide_false, Bool.false_eq_true, if_false,
      Nat.add_zero]
    refine List.countP_congr fun j _ => ?_
    cases v.passResult run s j <;> simp [passAnswer, Except.isOk, Except.toBool]
  · rw [hcount]
    refine (Nat.add_zero _).trans (List.countP_congr fun j _ => ?_)
    cases v.passResult run s j <;> simp [passAnswer, Except.isOk, Except.toBool]
  · rw [hcount, List.countP_eq_zero.2]
    · simp
    · intro j _
      cases v.passResult run s j <;> simp [passAnswer]

/-- **Callers at once**, in any order of their steps. Only one of them is in a pass at any time.
Passes go on until one leaves a valid environment or there is nobody left, and what the callers
have got in the end depends on nothing else. If the first pass gets to the script, and the
script keeps to the environment's directory, every pass gets there and ends as the script does.

The script takes nothing away, or the directory's path has no `..` by which the first steps of a
pass may uncover a marker. -/
theorem served
    (hscript : v.OnlyAdds run ∨ v.PlainNames ∧ v.SparesMarker run ∧
      v.layout.execDir.text ≠ "" ∧ .up ∉ FileTree.moves v.layout.execDir)
    (h : Reaches v run (gather s n) c) :
    (∀ (i j : Nat) (steps steps' : List SetupStep), c.callers[i]? = some (.settingUp steps) →
      c.callers[j]? = some (.settingUp steps') → i = j) ∧
    (c.callers.all Caller.isAnswered = true → Served v run s n c) ∧
    (∀ j < v.passes run n s, v.layout.isValid (v.afterPasses run j s).tree = false) ∧
    (v.passes run n s < n →
      v.layout.isValid (v.afterPasses run (v.passes run n s) s).tree = true) ∧
    (v.PlainNames → v.Confined run → FileTree.Takes v.layout.marker →
      v.layout.execDir.text ≠ "" → .up ∉ FileTree.moves v.layout.execDir →
      (v.prepare s.tree).1 = .ok () →
      v.starts run s (v.passes run n s) = v.passes run n s ∧
        ∀ j, v.Regular run (v.afterPasses run j s)) := by
  have hsteady : v.Steady run := by
    rcases hscript with hadds | ⟨hnames, hspares, hne, hup⟩
    · exact Provisioner.steady_of_onlyAdds hadds
    · exact Provisioner.steady_of_no_up hnames hspares hne hup
  refine ⟨fun i j steps steps' => h.one_at_a_time, fun hdone => ?_,
    fun j => Provisioner.not_isValid_of_lt_passes, Provisioner.isValid_of_passes_lt, ?_⟩
  · obtain ⟨hsession, hanswers⟩ := h.answered hsteady hdone
    exact served_of_inTurn hsession hanswers
  · intro hnames hconfined hmarker hne hup hprepare
    have hregular := Provisioner.regular_afterPasses hnames hconfined hmarker hne hup hprepare
    exact ⟨Provisioner.starts_eq fun j _ => hregular j, hregular⟩

/-- Three callers, of whom the first has a setup that cannot be started. -/
theorem served_after_failed_start :
    let v := Provisioner.plain ⟨"/env"⟩ 1
    let run := scripted fun call =>
      if call = 0 then .error .missing else .ok (⟨"", "", some 0⟩, 1)
    let s : Session Nat := ⟨default, 0, [], []⟩
    let c := (gather s 3).settle v run
    v.passes run 3 s = 2 ∧ Served v run s 3 c ∧
      c.session.calls = [v.setupCall, v.setupCall] ∧
      ∀ j, v.Regular run (v.afterPasses run j s) := by
  intro v run s c
  have hreaches : Reaches v run (gather s 3) c := Reaches.refl.settleWithin _
  obtain ⟨-, hserved, -, -, hregular⟩ := served (.inl (v.onlyAdds_scripted _)) hreaches
  have hanswered := hserved (by decide +kernel)
  obtain ⟨hstarts, hregular⟩ := hregular (Provisioner.plainNames_plain ⟨"/env"⟩ 1)
    (v.confined_scripted _) ⟨by decide, by decide, by decide⟩ (by decide) (by decide)
    (by decide +kernel)
  have hpasses : v.passes run 3 s = 2 := by decide +kernel
  refine ⟨hpasses, hanswered, ?_, hregular⟩
  rw [hanswered.calls, hstarts, hpasses]
  rfl

end Crowd
end LintHub
