import LintHub.Proofs.Environment.Validity

/-!
# Requests one after another

What becomes of callers who ask for a ready environment in turn, each when the one before
has its answer: the first ones set it up, until it is valid, and the others find it ready
(`inTurn_eq`).
-/

namespace LintHub.Provisioner

variable {σ : Type} {v : Provisioner} {run : Runner σ} {s : Session σ} {n : Nat}

/-- The answers to requests one after another, and the session they leave. -/
def inTurn (v : Provisioner) (run : Runner σ) :
    Nat → Session σ → List (Except ProvisionError Readiness) × Session σ
  | 0, s => ([], s)
  | n + 1, s =>
    let first := v.ensureReady run s
    let rest := inTurn v run n first.2
    (first.1 :: rest.1, rest.2)

/-- The answer that a pass is to the request it is for. -/
def passAnswer : Except ProvisionError Unit → Except ProvisionError Readiness
  | .ok () => .ok .provisioned
  | .error e => .error e

theorem ensureReady_eq_passAnswer (h : v.layout.isValid s.tree = false) :
    v.ensureReady run s = (passAnswer (v.reprovision run s).1, (v.reprovision run s).2) := by
  rw [ensureReady_of_not_isValid h]
  cases (v.reprovision run s).1 <;> rfl

theorem inTurn_succ_of_not_isValid (h : v.layout.isValid s.tree = false) (n : Nat) :
    v.inTurn run (n + 1) s =
      (passAnswer (v.reprovision run s).1 :: (v.inTurn run n (v.reprovision run s).2).1,
        (v.inTurn run n (v.reprovision run s).2).2) := by
  rw [inTurn, ensureReady_eq_passAnswer h]

/-- In a valid environment everybody finds it ready. -/
theorem inTurn_of_isValid (h : v.layout.isValid s.tree = true) (n : Nat) :
    v.inTurn run n s = (List.replicate n (.ok .already), s) := by
  induction n with
  | zero => rfl
  | succ n ih =>
    rw [inTurn, ensureReady_of_isValid h]
    simp only
    rw [ih, List.replicate_succ]

/-- How many of the requests are passes: up to the first that leaves a valid environment. -/
def passes (v : Provisioner) (run : Runner σ) : Nat → Session σ → Nat
  | 0, _ => 0
  | n + 1, s =>
    if v.layout.isValid s.tree then 0 else passes v run n (v.reprovision run s).2 + 1

/-- The session after so many passes. -/
def afterPasses (v : Provisioner) (run : Runner σ) : Nat → Session σ → Session σ
  | 0, s => s
  | k + 1, s => afterPasses v run k (v.reprovision run s).2

theorem afterPasses_succ (v : Provisioner) (run : Runner σ) (k : Nat) (s : Session σ) :
    v.afterPasses run (k + 1) s = (v.reprovision run (v.afterPasses run k s)).2 := by
  induction k generalizing s with
  | zero => rfl
  | succ k ih => exact ih (v.reprovision run s).2

/-- How the pass with this number ends. -/
def passResult (v : Provisioner) (run : Runner σ) (s : Session σ) (k : Nat) :
    Except ProvisionError Unit :=
  (v.reprovision run (v.afterPasses run k s)).1

/-- The answers that so many passes are. -/
def passAnswers (v : Provisioner) (run : Runner σ) (k : Nat) (s : Session σ) :
    List (Except ProvisionError Readiness) :=
  (List.range k).map fun j => passAnswer (v.passResult run s j)

theorem passAnswers_succ (v : Provisioner) (run : Runner σ) (k : Nat) (s : Session σ) :
    v.passAnswers run (k + 1) s =
      passAnswer (v.reprovision run s).1 :: v.passAnswers run k (v.reprovision run s).2 := by
  unfold passAnswers
  rw [List.range_succ_eq_map, List.map_cons, List.map_map]
  rfl

theorem passes_le (v : Provisioner) (run : Runner σ) (n : Nat) (s : Session σ) :
    v.passes run n s ≤ n := by
  induction n generalizing s with
  | zero => exact Nat.le_refl 0
  | succ n ih =>
    rw [passes]
    split
    · exact Nat.zero_le _
    · exact Nat.succ_le_succ (ih _)

/-- **In turn**, the first requests are passes and the others find a ready environment. -/
theorem inTurn_eq (v : Provisioner) (run : Runner σ) (n : Nat) (s : Session σ) :
    v.inTurn run n s =
      (v.passAnswers run (v.passes run n s) s ++
          List.replicate (n - v.passes run n s) (.ok .already),
        v.afterPasses run (v.passes run n s) s) := by
  induction n generalizing s with
  | zero => rfl
  | succ n ih =>
    cases h : v.layout.isValid s.tree with
    | true =>
      rw [inTurn_of_isValid h, passes, if_pos h]
      rfl
    | false =>
      have hnot : ¬ v.layout.isValid s.tree = true := by simp [h]
      rw [inTurn_succ_of_not_isValid h, ih, passes, if_neg hnot, Nat.succ_sub_succ,
        passAnswers_succ]
      rfl

/-- No pass but the last leaves a valid environment. -/
theorem not_isValid_of_lt_passes {k : Nat} (h : k < v.passes run n s) :
    v.layout.isValid (v.afterPasses run k s).tree = false := by
  induction n generalizing s k with
  | zero => exact absurd h (Nat.not_lt_zero k)
  | succ n ih =>
    rw [passes] at h
    split at h
    · exact absurd h (Nat.not_lt_zero k)
    · rename_i hnot
      cases k with
      | zero => simpa [afterPasses] using hnot
      | succ k =>
        rw [afterPasses]
        exact ih (by omega)

/-- If not all requests are passes, the last pass does. -/
theorem isValid_of_passes_lt (h : v.passes run n s < n) :
    v.layout.isValid (v.afterPasses run (v.passes run n s) s).tree = true := by
  induction n generalizing s with
  | zero => exact absurd h (Nat.not_lt_zero _)
  | succ n ih =>
    rw [passes] at h ⊢
    split
    · assumption
    · rename_i hnot
      rw [if_neg hnot] at h
      rw [afterPasses]
      exact ih (by omega)

end LintHub.Provisioner
