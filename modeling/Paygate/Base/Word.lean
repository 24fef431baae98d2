import Mathlib.Data.UInt
import Mathlib.Tactic.Common

/-!
# Saturating arithmetic on 64-bit words

The sum and the difference of 64-bit words that stop at the ends of the range instead of
wrapping around, and what they are as natural numbers.
-/

namespace UInt64

/-- The largest 64-bit word. -/
def top : UInt64 := 18446744073709551615

theorem toNat_top :
  top.toNat = 2 ^ 64 - 1
  := rfl

/-- The sum of two words, or the largest word if the sum does not fit. -/
def saturatingAdd (a b : UInt64) : UInt64 :=
  if a.toNat + b.toNat < 2 ^ 64 then a + b else top

/-- The difference of two words, or zero if it would be negative. -/
def saturatingSub (a b : UInt64) : UInt64 :=
  if b ≤ a then a - b else 0

theorem toNat_saturatingAdd (a b : UInt64) :
  (saturatingAdd a b).toNat = min (a.toNat + b.toNat) (2 ^ 64 - 1)
  := by
  unfold saturatingAdd
  split
  · rw [UInt64.toNat_add]
    omega
  · rw [toNat_top]
    omega

theorem toNat_saturatingSub (a b : UInt64) :
  (saturatingSub a b).toNat = a.toNat - b.toNat
  := by
  unfold saturatingSub
  split
  · rename_i h
    apply UInt64.toNat_sub_of_le _ _ h
  · rename_i h
    rw [UInt64.le_iff_toNat_le] at h
    have : (0 : UInt64).toNat = 0 := rfl
    omega

end UInt64
