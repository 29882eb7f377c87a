import LintHub.Output
import LintHub.Proofs.Text.Scanning

/-!
# Grammars of lines

A format with one issue on each line is said by a relation between a line and a diagnostic. An
output is then read line by line, in order: a line gives the diagnostic that it is related to, and
it gives none if there is no such diagnostic. Nothing here looks at how a line is scanned.

* `lineByLine_iff`: what a scanner for single lines makes of a whole output.
* `position?_eq_iff`: a position is one less than the number that is written, if that fits.
-/

namespace LintHub.Output

open Text

variable {Says : List Char → Diagnostic → Prop} {ls : List (List Char)} {ds : List Diagnostic}

/-- These are the diagnostics of these lines, of which each gives at most one. -/
inductive LineByLine (Says : List Char → Diagnostic → Prop) :
    List (List Char) → List Diagnostic → Prop where
  | nil : LineByLine Says [] []
  | issue {l : List Char} {d : Diagnostic} {ls : List (List Char)} {ds : List Diagnostic}
      (said : Says l d) : LineByLine Says ls ds → LineByLine Says (l :: ls) (d :: ds)
  | skip {l : List Char} {ls : List (List Char)} {ds : List Diagnostic}
      (silent : ∀ d, ¬ Says l d) : LineByLine Says ls ds → LineByLine Says (l :: ls) ds

/-- **Line by line**, a scanner that reads just what a line says gives just the diagnostics. -/
theorem lineByLine_iff {scan : List Char → Option Diagnostic}
    (h : ∀ l d, scan l = some d ↔ Says l d) : ls.filterMap scan = ds ↔ LineByLine Says ls ds := by
  constructor
  · rintro rfl
    induction ls with
    | nil => exact .nil
    | cons l ls ih =>
      cases hl : scan l with
      | none =>
        rw [List.filterMap_cons_none hl]
        refine .skip (fun d hd => ?_) ih
        rw [(h l d).2 hd] at hl
        cases hl
      | some d =>
        rw [List.filterMap_cons_some hl]
        exact .issue ((h l d).1 hl) ih
  · intro hread
    induction hread with
    | nil => rfl
    | @issue l d ls ds said _ ih => rw [List.filterMap_cons_some ((h l d).2 said), ih]
    | @skip l ls ds silent _ ih =>
      have hl : scan l = none := Option.eq_none_iff_forall_not_mem.2 fun d hd =>
        silent d ((h l d).1 hd)
      rw [List.filterMap_cons_none hl, ih]

/-- The position, counted from zero, that a number stands for: one less than the number, zero
for zero, and none for a number that does not fit in 32 bits. -/
def IsPosition (ds : List Char) (n : Option UInt32) : Prop :=
  n.map UInt32.toNat = if decimal ds < UInt32.size then some (decimal ds - 1) else none

theorem isPosition_position? (ds : List Char) : IsPosition ds (position? ds) := toNat_position? ds

/-- **A position** is just the one that its number stands for. -/
theorem position?_eq_iff {ds : List Char} {n : Option UInt32} :
    position? ds = n ↔ IsPosition ds n := by
  constructor
  · rintro rfl
    exact isPosition_position? ds
  · intro h
    have hinj : Function.Injective (Option.map UInt32.toNat) :=
      Option.map_injective fun _ _ => UInt32.toNat_inj.1
    exact hinj ((isPosition_position? ds).trans h.symm)

end LintHub.Output
