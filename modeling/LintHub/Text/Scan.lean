/-!
# Small scanners

The pieces from which the line grammars are built: a word read without regard to
ASCII case, a run of ASCII digits, and the shortest part of a text after which a
given scanner succeeds.

* `shortest_eq_some_iff`: `shortest` finds the first place where the scanner succeeds.
-/

namespace LintHub.Text

/-- Reads `word` from the front, ignoring ASCII case, and returns what follows. -/
def dropWord : List Char → List Char → Option (List Char)
  | [], cs => some cs
  | _ :: _, [] => none
  | w :: ws, c :: cs => if c.toLower = w.toLower then dropWord ws cs else none

/-- Two texts equal up to ASCII case. -/
def sameWord (a b : List Char) : Bool := a.map Char.toLower == b.map Char.toLower

/-- The longest run of ASCII digits at the front, and what follows. -/
def digits (cs : List Char) : List Char × List Char :=
  (cs.takeWhile Char.isDigit, cs.dropWhile Char.isDigit)

/-- The number a run of decimal digits writes. -/
def decimal (ds : List Char) : Nat := ds.foldl (fun n c => 10 * n + (c.toNat - 48)) 0

/-- The shortest part of a text after which `scan` succeeds, with its result. -/
def shortest (scan : List Char → Option α) : List Char → Option (List Char × α)
  | [] => (scan []).map fun a => ([], a)
  | c :: cs =>
    match scan (c :: cs) with
    | some a => some ([], a)
    | none => (shortest scan cs).map fun r => (c :: r.1, r.2)

/-- As `shortest`, but the part before is not empty. -/
def shortestNonempty (scan : List Char → Option α) : List Char → Option (List Char × α)
  | [] => none
  | c :: cs => (shortest scan cs).map fun r => (c :: r.1, r.2)

/-- Whether `part` occurs in the text as a contiguous piece. -/
def occursIn (part : List Char) : List Char → Bool
  | [] => part.isEmpty
  | c :: cs => part.isPrefixOf (c :: cs) || occursIn part cs

/-- Replaces every occurrence of a non-empty `part`, from the left and without
overlap, by `new`. -/
def replaceAll (part new : List Char) (cs : List Char) : List Char :=
  go cs.length cs
where
  /-- The number bounds the steps left; each step consumes a character. -/
  go : Nat → List Char → List Char
    | 0, cs => cs
    | _ + 1, [] => []
    | n + 1, c :: cs =>
      if part ≠ [] ∧ part.isPrefixOf (c :: cs) then new ++ go n ((c :: cs).drop part.length)
      else c :: go n cs

/-- `shortest` splits the text where the scanner first succeeds. -/
theorem shortest_eq_some_iff (scan : List Char → Option α) (cs before : List Char) (a : α) :
    shortest scan cs = some (before, a) ↔
      ∃ rest, cs = before ++ rest ∧ scan rest = some a ∧
        ∀ p q, before = p ++ q → q ≠ [] → scan (q ++ rest) = none := by
  induction cs generalizing before with
  | nil =>
    simp only [shortest, Option.map_eq_some_iff, Prod.mk.injEq]
    constructor
    · rintro ⟨b, hb, rfl, rfl⟩
      refine ⟨[], rfl, hb, ?_⟩
      intro p q hpq hq
      simp at hpq
      exact absurd hpq.2 hq
    · rintro ⟨rest, h, hs, _⟩
      obtain ⟨rfl, rfl⟩ := List.append_eq_nil_iff.1 h.symm
      exact ⟨a, hs, rfl, rfl⟩
  | cons c cs ih =>
    rw [shortest]
    cases hc : scan (c :: cs) with
    | some b =>
      simp only [Option.some.injEq, Prod.mk.injEq]
      constructor
      · rintro ⟨rfl, rfl⟩
        refine ⟨c :: cs, rfl, hc, ?_⟩
        intro p q hpq hq
        simp at hpq
        exact absurd hpq.2 hq
      · rintro ⟨rest, h, hs, hf⟩
        cases before with
        | nil =>
          simp at h
          rw [← h, hc] at hs
          exact ⟨rfl, by simpa using hs⟩
        | cons x xs =>
          have := hf [] (x :: xs) rfl (by simp)
          rw [← h, hc] at this
          exact absurd this (by simp)
    | none =>
      simp only [Option.map_eq_some_iff, Prod.mk.injEq, Prod.exists]
      constructor
      · rintro ⟨b, d, h, rfl, rfl⟩
        obtain ⟨rest, rfl, hs, hf⟩ := (ih b).1 h
        refine ⟨rest, rfl, hs, ?_⟩
        intro p q hpq hq
        cases p with
        | nil => simp at hpq; subst hpq; simpa using hc
        | cons x xs =>
          simp at hpq
          exact hf xs q hpq.2 hq
      · rintro ⟨rest, h, hs, hf⟩
        cases before with
        | nil =>
          simp at h
          rw [← h, hc] at hs
          exact absurd hs (by simp)
        | cons x xs =>
          simp only [List.cons_append, List.cons.injEq] at h
          refine ⟨xs, a, (ih xs).2 ⟨rest, h.2, hs, ?_⟩, by rw [h.1], rfl⟩
          intro p q hpq hq
          exact hf (x :: p) q (by simp [hpq]) hq

end LintHub.Text
