import LintHub.Text.Scan

/-!
# Positions in tool output

Tools count lines and columns from one and the program from zero. A number that does
not fit in 32 bits is no position; zero, which some tools write, stays zero.

* `toNat_position?`: the position without the arithmetic of 32 bits.
-/

namespace LintHub.Output

/-- The position before this one, zero before zero. -/
def zeroBased (n : UInt32) : UInt32 := if n = 0 then 0 else n - 1

/-- The zero-based position that a run of digits writes. -/
def position? (ds : List Char) : Option UInt32 :=
  let n := Text.decimal ds
  if n < UInt32.size then some (zeroBased (UInt32.ofNat n)) else none

theorem toNat_zeroBased (n : UInt32) : (zeroBased n).toNat = n.toNat - 1 := by
  unfold zeroBased
  split
  · rename_i hzero
    rw [hzero]
    rfl
  · rename_i hne
    have hpos : n.toNat ≠ 0 := fun h => hne (UInt32.toNat_inj.1 h)
    have hone : (1 : UInt32) ≤ n := UInt32.le_iff_toNat_le.2 (Nat.one_le_iff_ne_zero.2 hpos)
    rw [UInt32.toNat_sub_of_le n 1 hone, UInt32.toNat_one]

theorem toNat_position? (ds : List Char) : (position? ds).map UInt32.toNat =
    if Text.decimal ds < UInt32.size then some (Text.decimal ds - 1) else none := by
  unfold position?
  by_cases hsize : Text.decimal ds < UInt32.size
  · simp only [if_pos hsize, Option.map_some, toNat_zeroBased, UInt32.toNat_ofNat_of_lt' hsize]
  · simp only [if_neg hsize, Option.map_none]

end LintHub.Output
