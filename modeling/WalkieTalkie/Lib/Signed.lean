import Mathlib.Algebra.Group.Int.Defs
import Mathlib.Algebra.Group.Nat.Defs
import Mathlib.Order.Lattice

/-! Unsigned 64-bit integers that are stored and compared as signed ones. The comparison is that of
the integers exactly when both are on the same side of 2^63. -/

namespace WalkieTalkie.Lib.Signed

variable {a b : UInt64}

lemma toInt_toInt64 (a : UInt64) : a.toInt64.toInt =
    if a.toNat < 2 ^ 63 then (a.toNat : ℤ) else a.toNat - 2 ^ 64 := by
  change a.toBitVec.toInt = _
  rw [BitVec.toInt_eq_toNat_cond, UInt64.toNat_toBitVec]
  split
  · rw [if_pos (by omega)]
  · rw [if_neg (by omega)]
    rfl

lemma toInt64_lt : a.toInt64 < b.toInt64 ↔
    (a.toNat < b.toNat ↔ (a.toNat < 2 ^ 63 ↔ b.toNat < 2 ^ 63)) := by
  have ha := a.toNat_lt
  have hb := b.toNat_lt
  rw [Int64.lt_iff_toInt_lt, toInt_toInt64, toInt_toInt64]
  split
  · split
    · omega
    · omega
  · split
    · omega
    · omega

/-- The signed comparison is the unsigned one exactly on one side of the sign. -/
lemma toInt64_lt_agrees : (a.toInt64 < b.toInt64 ↔ a.toNat < b.toNat) ↔
    (a.toNat < 2 ^ 63 ↔ b.toNat < 2 ^ 63) := by
  rw [toInt64_lt]
  omega

end WalkieTalkie.Lib.Signed
