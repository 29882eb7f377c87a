/-!
# Sets of characters

A property of characters is written as the stretches of code points that have it.

* `covers_iff`: a character has the property exactly when one of the stretches holds it.
-/

namespace LintHub.Text

/-- Characters, as stretches of code points, each with its first and its last. -/
abbrev CharRanges := List (Nat × Nat)

/-- Whether a character is in one of the stretches. -/
def CharRanges.covers (rs : CharRanges) (c : Char) : Bool :=
  rs.any fun r => r.1 ≤ c.toNat && c.toNat ≤ r.2

theorem CharRanges.covers_iff (rs : CharRanges) (c : Char) :
    rs.covers c = true ↔ ∃ r ∈ rs, r.1 ≤ c.toNat ∧ c.toNat ≤ r.2 := by
  simp [covers]

end LintHub.Text
