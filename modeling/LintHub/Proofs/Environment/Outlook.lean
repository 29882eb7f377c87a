import LintHub.Proofs.Environment.Crowd
import LintHub.Proofs.Environment.InTurn
import LintHub.Proofs.Environment.Steady

/-!
# What callers are still to get

At any moment some answers are certain, and the others are those that callers in turn would
still get: first the one that is in a pass, if there is one, then the others (`Outlook`). The
two together are the same all the time. A look without the lock keeps this, since a steady
pass keeps what it has made valid.

* `Outlook.moves`: the step.
* `Reaches.perm`: the answers of a crowd are those of as many callers in turn.
-/

namespace LintHub

variable {σ : Type}

/-- The answer of a caller, as soon as it is certain. -/
def Caller.answer? : Caller → Option (Except ProvisionError Readiness)
  | .leaving r | .answered r => some r
  | _ => none

namespace Crowd

variable {v : Provisioner} {run : Runner σ} {c c' : Crowd σ} {i j : Nat}

/-- The answers that are certain. -/
def answersOf (callers : List Caller) : List (Except ProvisionError Readiness) :=
  callers.filterMap Caller.answer?

/-- How many callers have none yet. -/
def undecided (callers : List Caller) : Nat := callers.countP fun x => x.answer?.isNone

theorem answers_set_of_eq {cs : List Caller} {x y : Caller} (h : cs[i]? = some x)
    (hxy : y.answer? = x.answer?) :
    answersOf (cs.set i y) = answersOf cs ∧ undecided (cs.set i y) = undecided cs := by
  obtain ⟨front, back, rfl, hset⟩ := split_set h
  rw [hset]
  simp [answersOf, undecided, List.filterMap_append, List.filterMap_cons, List.countP_cons, hxy]

/-- A caller whose answer becomes certain. -/
theorem answers_set_of_some {cs : List Caller} {x y : Caller}
    {r : Except ProvisionError Readiness} (h : cs[i]? = some x) (hx : x.answer? = none)
    (hy : y.answer? = some r) :
    (answersOf (cs.set i y)).Perm (r :: answersOf cs) ∧
      undecided cs = undecided (cs.set i y) + 1 := by
  obtain ⟨front, back, rfl, hset⟩ := split_set h
  rw [hset]
  constructor
  · simp [answersOf, List.filterMap_append, hx, hy]
  · simp only [undecided, List.countP_append, List.countP_cons, hx, hy, Option.isNone_none,
      Option.isNone_some, if_true, Bool.false_eq_true, if_false]
    omega

theorem undecided_pos {cs : List Caller} {x : Caller} (h : cs[i]? = some x)
    (hx : x.answer? = none) : 0 < undecided cs := by
  unfold undecided
  rw [List.countP_pos_iff]
  exact ⟨x, List.mem_of_getElem? h, by simp [hx]⟩

/-- Nobody is in a pass. -/
def Calm (callers : List Caller) : Prop :=
  ∀ (i : Nat) (steps : List SetupStep), callers[i]? ≠ some (.settingUp steps)

/-- The answers that are still to come, and the session at the end, if the callers went on in
turn, the one that is in a pass first. -/
inductive Outlook (v : Provisioner) (run : Runner σ) (c : Crowd σ) :
    List (Except ProvisionError Readiness) → Session σ → Prop
  | idle (calm : Calm c.callers) :
    Outlook v run c (v.inTurn run (undecided c.callers) c.session).1
      (v.inTurn run (undecided c.callers) c.session).2
  | busy {i n : Nat} {steps : List SetupStep} (at_ : c.callers[i]? = some (.settingUp steps))
    (others : undecided c.callers = n + 1) (keeps : v.Keeps run steps c.session) :
    Outlook v run c
      (Provisioner.passAnswer (v.finish run steps c.session).1 ::
        (v.inTurn run n (v.finish run steps c.session).2).1)
      (v.inTurn run n (v.finish run steps c.session).2).2

theorem outlook_of_calm (v : Provisioner) (run : Runner σ) (s : Session σ) (lock : Option Nat)
    {cs : List Caller} {k : Nat} (hcalm : Calm cs) (hk : undecided cs = k) :
    Outlook v run ⟨s, lock, cs⟩ (v.inTurn run k s).1 (v.inTurn run k s).2 := by
  subst hk
  exact .idle hcalm

theorem calm_set {cs : List Caller} {y : Caller}
    (h : ∀ (j : Nat) steps, j ≠ i → cs[j]? ≠ some (Caller.settingUp steps))
    (hy : ∀ steps, y ≠ .settingUp steps) : Calm (cs.set i y) := by
  intro j steps
  rw [List.getElem?_set]
  split
  · split
    · simpa using hy steps
    · simp
  · rename_i hne
    exact h j steps (Ne.symm hne)

theorem getElem?_set_of_ne {cs : List Caller} {x y z : Caller} (hi : cs[i]? = some x)
    (hj : cs[j]? = some z) (hne : x ≠ z) : (cs.set i y)[j]? = some z := by
  rw [List.getElem?_set_ne, hj]
  rintro rfl
  rw [hi] at hj
  exact hne (Option.some.inj hj)

/-- One answer more is certain, and one less to come. -/
theorem perm_of_decided {done done' rest : List (Except ProvisionError Readiness)}
    {r : Except ProvisionError Readiness} (h : done'.Perm (r :: done)) :
    (done' ++ rest).Perm (done ++ r :: rest) :=
  (h.append_right rest).trans List.perm_middle.symm

/-- A step of a caller while nobody is in a pass. -/
theorem moves_of_calm (hsteady : v.Steady run) (hcalm : Calm c.callers)
    (hmove : Moves v run c i c') :
    ∃ rest, Outlook v run c' rest (v.inTurn run (undecided c.callers) c.session).2 ∧
      (answersOf c'.callers ++ rest).Perm
        (answersOf c.callers ++ (v.inTurn run (undecided c.callers) c.session).1) := by
  have hset {y : Caller} (hy : ∀ steps, y ≠ .settingUp steps) : Calm (c.callers.set i y) :=
    calm_set (fun j steps _ => hcalm j steps) hy
  -- a caller finds the environment ready, as it would in turn
  have hready {x y : Caller} (hi : c.callers[i]? = some x) (hx : x.answer? = none)
      (hy : y.answer? = some (.ok .already)) (hnot : ∀ steps, y ≠ .settingUp steps)
      (hvalid : v.layout.isValid c.session.tree = true) :
      ∃ rest, Outlook v run ⟨c.session, c.lock, c.callers.set i y⟩ rest
          (v.inTurn run (undecided c.callers) c.session).2 ∧
        (answersOf (c.callers.set i y) ++ rest).Perm
          (answersOf c.callers ++ (v.inTurn run (undecided c.callers) c.session).1) := by
    obtain ⟨hperm, hcount⟩ := answers_set_of_some hi hx hy
    have hnext := outlook_of_calm v run c.session c.lock (hset hnot) rfl
    rw [Provisioner.inTurn_of_isValid hvalid] at hnext ⊢
    rw [hcount, List.replicate_succ]
    exact ⟨_, hnext, perm_of_decided hperm⟩
  -- a caller goes on without an answer, or gives the lock back
  have hkeep {x y : Caller} (lock : Option Nat) (hi : c.callers[i]? = some x)
      (hxy : y.answer? = x.answer?) (hnot : ∀ steps, y ≠ .settingUp steps) :
      ∃ rest, Outlook v run ⟨c.session, lock, c.callers.set i y⟩ rest
          (v.inTurn run (undecided c.callers) c.session).2 ∧
        (answersOf (c.callers.set i y) ++ rest).Perm
          (answersOf c.callers ++ (v.inTurn run (undecided c.callers) c.session).1) := by
    obtain ⟨hanswers, hcount⟩ := answers_set_of_eq hi hxy
    exact ⟨_, outlook_of_calm v run c.session lock (hset hnot) hcount, by rw [hanswers]⟩
  cases hmove with
  | found at_ valid => exact hready at_ rfl rfl nofun valid
  | wanted at_ => exact hkeep c.lock at_ rfl nofun
  | took at_ => exact hkeep (some i) at_ rfl nofun
  | spared at_ valid => exact hready at_ rfl rfl nofun valid
  | began at_ invalid =>
    obtain ⟨hanswers, hcount⟩ :=
      answers_set_of_eq (y := .settingUp v.bundle.setupSteps) at_ rfl
    obtain ⟨n, hn⟩ := Nat.exists_eq_succ_of_ne_zero (undecided_pos at_ rfl).ne'
    have hi : (c.callers.set i (.settingUp v.bundle.setupSteps))[i]? =
        some (.settingUp v.bundle.setupSteps) := by
      rw [List.getElem?_set_self (List.getElem?_eq_some_iff.1 at_).1]
    have hbusy : Outlook v run
        ⟨v.announced c.session, c.lock, c.callers.set i (.settingUp v.bundle.setupSteps)⟩ _ _ :=
      .busy hi (hcount.trans hn) (hsteady c.session invalid)
    rw [← Provisioner.reprovision_apply] at hbusy
    rw [hn, Provisioner.inTurn_succ_of_not_isValid invalid]
    exact ⟨_, hbusy, by rw [hanswers]⟩
  | advanced at_ => exact absurd at_ (hcalm i _)
  | failed at_ => exact absurd at_ (hcalm i _)
  | finished at_ => exact absurd at_ (hcalm i _)
  | left at_ => exact hkeep none at_ rfl nofun

/-- The caller in a pass is the only one. -/
theorem Excluded.nobody_else (h : c.Excluded) {steps steps' : List SetupStep}
    (hi : c.callers[i]? = some (.settingUp steps)) (hne : j ≠ i) :
    c.callers[j]? ≠ some (.settingUp steps') := fun hj =>
  hne (h.unique hj rfl hi rfl)

/-- A step of a caller while one is in a pass. -/
theorem moves_of_busy (hexcluded : c.Excluded) {n : Nat} {steps : List SetupStep}
    (hi : c.callers[i]? = some (.settingUp steps)) (hn : undecided c.callers = n + 1)
    (hkeeps : v.Keeps run steps c.session) (hmove : Moves v run c j c') :
    ∃ rest, Outlook v run c' rest (v.inTurn run n (v.finish run steps c.session).2).2 ∧
      (answersOf c'.callers ++ rest).Perm
        (answersOf c.callers ++ Provisioner.passAnswer (v.finish run steps c.session).1 ::
          (v.inTurn run n (v.finish run steps c.session).2).1) := by
  -- nobody else has the lock
  have hown {x : Caller} (hj : c.callers[j]? = some x) (hx : x.holdsLock = true) :
      j = i ∧ x = .settingUp steps := by
    obtain rfl := hexcluded.unique hj hx hi rfl
    rw [hi] at hj
    exact ⟨rfl, (Option.some.inj hj).symm⟩
  cases hmove with
  | found at_ valid =>
    obtain ⟨hperm, hcount⟩ := answers_set_of_some (y := .answered (.ok .already)) at_ rfl rfl
    have hi' := getElem?_set_of_ne (y := .answered (.ok .already)) at_ hi nofun
    obtain ⟨k, hk⟩ := Nat.exists_eq_succ_of_ne_zero (undecided_pos hi' rfl).ne'
    -- the pass keeps what is valid, so all who come after it find it ready too
    have hfinal (k : Nat) : v.inTurn run k (v.finish run steps c.session).2 = _ :=
      Provisioner.inTurn_of_isValid (hkeeps.isValid_finish valid) k
    have hbusy : Outlook v run
        ⟨c.session, c.lock, c.callers.set j (.answered (.ok .already))⟩ _ _ :=
      .busy hi' hk hkeeps
    obtain rfl : n = k + 1 := by omega
    rw [hfinal] at hbusy ⊢
    refine ⟨_, hbusy, ?_⟩
    rw [List.replicate_succ]
    exact (perm_of_decided hperm).trans (.append_left _ (.swap ..))
  | wanted at_ =>
    obtain ⟨hanswers, hcount⟩ := answers_set_of_eq (y := .waiting) at_ rfl
    refine ⟨_, .busy (getElem?_set_of_ne at_ hi nofun) (hcount.trans hn) hkeeps, ?_⟩
    simp only
    rw [hanswers]
  | took at_ free =>
    rw [hexcluded.lock_eq hi rfl] at free
    cases free
  | spared at_ => cases (hown at_ rfl).2
  | began at_ => cases (hown at_ rfl).2
  | @advanced step rest s at_ done =>
    obtain ⟨rfl, heq⟩ := hown at_ rfl
    cases heq
    obtain ⟨hanswers, hcount⟩ := answers_set_of_eq (y := .settingUp rest) at_ rfl
    have hi' : (c.callers.set j (.settingUp rest))[j]? = some (.settingUp rest) := by
      rw [List.getElem?_set_self (List.getElem?_eq_some_iff.1 at_).1]
    have hbusy : Outlook v run ⟨s, c.lock, c.callers.set j (.settingUp rest)⟩ _ _ :=
      .busy hi' (hcount.trans hn) (hkeeps.2 s done)
    rw [Provisioner.finish_cons, done]
    refine ⟨_, hbusy, ?_⟩
    simp only
    rw [hanswers]
  | @failed step rest s e at_ broken =>
    obtain ⟨rfl, heq⟩ := hown at_ rfl
    cases heq
    obtain ⟨hperm, hcount⟩ := answers_set_of_some (y := .leaving (.error e)) at_ rfl rfl
    have hcalm : Calm (c.callers.set j (.leaving (.error e))) :=
      calm_set (fun k rest' hne => hexcluded.nobody_else hi hne) nofun
    rw [Provisioner.finish_cons, broken]
    exact ⟨_, outlook_of_calm v run s c.lock hcalm (by omega), perm_of_decided hperm⟩
  | finished at_ =>
    obtain ⟨rfl, heq⟩ := hown at_ rfl
    cases heq
    obtain ⟨hperm, hcount⟩ := answers_set_of_some (y := .leaving (.ok .provisioned)) at_ rfl rfl
    have hcalm : Calm (c.callers.set j (.leaving (.ok .provisioned))) :=
      calm_set (fun k rest' hne => hexcluded.nobody_else hi hne) nofun
    rw [Provisioner.finish_nil]
    exact ⟨_, outlook_of_calm v run (c.session.tell .installed) c.lock hcalm (by omega),
      perm_of_decided hperm⟩
  | left at_ => cases (hown at_ rfl).2

/-- **A step changes neither** the answers that there will be nor the session at the end. -/
theorem Outlook.moves (hsteady : v.Steady run) (hexcluded : c.Excluded)
    {rest : List (Except ProvisionError Readiness)} {final : Session σ}
    (h : Outlook v run c rest final) (hmove : Moves v run c j c') :
    ∃ rest', Outlook v run c' rest' final ∧
      (answersOf c'.callers ++ rest').Perm (answersOf c.callers ++ rest) := by
  cases h with
  | idle calm => exact moves_of_calm hsteady calm hmove
  | busy at_ others keeps => exact moves_of_busy hexcluded at_ others keeps hmove

/-- **The answers of a crowd**, those that are certain and those that are still to come, are
those of as many callers in turn, and it is heading for the same session. -/
theorem Reaches.perm (hsteady : v.Steady run) {s : Session σ} {n : Nat}
    (h : Reaches v run (gather s n) c) :
    ∃ rest, Outlook v run c rest (v.inTurn run n s).2 ∧
      (answersOf c.callers ++ rest).Perm (v.inTurn run n s).1 := by
  induction h with
  | refl =>
    have hcalm : Calm (gather s n).callers := by
      intro i steps hi
      rw [gather, List.getElem?_replicate] at hi
      split at hi <;> cases hi
    have hnone : answersOf (gather s n).callers = [] := by
      simp [answersOf, gather, Caller.answer?]
    have hcount : undecided (gather s n).callers = n := by
      simp [undecided, gather, List.countP_replicate, Caller.answer?]
    refine ⟨_, outlook_of_calm v run s none hcalm hcount, ?_⟩
    rw [hnone, List.nil_append]
  | step before move ih =>
    obtain ⟨rest, houtlook, hperm⟩ := ih
    obtain ⟨rest', houtlook', hperm'⟩ :=
      houtlook.moves hsteady (before.excluded (.gather s n)) (moves_of_move move)
    exact ⟨rest', houtlook', hperm'.trans hperm⟩

/-- When everybody has an answer, none is still to come. -/
theorem Outlook.eq_of_answered {rest : List (Except ProvisionError Readiness)}
    {final : Session σ} (h : Outlook v run c rest final)
    (hdone : c.callers.all Caller.isAnswered = true) : rest = [] ∧ c.session = final := by
  rw [List.all_eq_true] at hdone
  cases h with
  | idle =>
    have hnone : undecided c.callers = 0 := by
      rw [undecided, List.countP_eq_zero]
      intro x hx
      cases x with
      | answered r => simp [Caller.answer?]
      | _ => cases hdone _ hx
    rw [hnone]
    exact ⟨rfl, rfl⟩
  | busy at_ => cases hdone _ (List.mem_of_getElem? at_)

/-- The answers that are counted when everybody has one. -/
theorem countAnswers_eq (hdone : c.callers.all Caller.isAnswered = true)
    (test : Except ProvisionError Readiness → Bool) :
    c.countAnswers test = (answersOf c.callers).countP test := by
  unfold countAnswers answersOf
  generalize c.callers = callers at hdone
  induction callers with
  | nil => rfl
  | cons x callers ih =>
    rw [List.all_cons, Bool.and_eq_true] at hdone
    cases x with
    | answered r =>
      rw [List.countP_cons, ih hdone.2, List.filterMap_cons]
      simp [Caller.answer?, List.countP_cons]
    | _ => cases hdone.1

/-- **When everybody has an answer**, the session is the one that callers in turn leave, and
each answer has been given as often as they get it. -/
theorem Reaches.answered (hsteady : v.Steady run) {s : Session σ} {n : Nat}
    (h : Reaches v run (gather s n) c) (hdone : c.callers.all Caller.isAnswered = true) :
    c.session = (v.inTurn run n s).2 ∧
      ∀ test, c.countAnswers test = (v.inTurn run n s).1.countP test := by
  obtain ⟨rest, houtlook, hperm⟩ := h.perm hsteady
  obtain ⟨rfl, hsession⟩ := houtlook.eq_of_answered hdone
  rw [List.append_nil] at hperm
  exact ⟨hsession, fun test => by rw [countAnswers_eq hdone, hperm.countP_eq]⟩

end Crowd
end LintHub
