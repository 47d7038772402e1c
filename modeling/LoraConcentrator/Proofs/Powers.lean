import Mathlib.Algebra.Order.Field.Power
import Mathlib.Data.Rat.Cast.Order
import Mathlib.Tactic.FieldSimp
import Mathlib.Tactic.NormNum
import Mathlib.Tactic.Positivity

/-!
# Powers with a signed exponent

A power with a signed exponent is computed in natural numbers, as a ratio one part of which is one.
-/

namespace LoraConcentrator

/-- A power with an exponent that is not negative, as it is computed. -/
theorem zpow_of_nonneg (b : ℚ) {e : ℤ} (he : 0 ≤ e) : b ^ e = b ^ e.toNat := by
  rw [← zpow_natCast, Int.toNat_of_nonneg he]

/-- A power with a negative exponent, as it is computed. -/
theorem zpow_of_neg (b : ℚ) {e : ℤ} (he : e < 0) : b ^ e = 1 / b ^ (-e).toNat := by
  rw [← zpow_natCast, Int.toNat_of_nonneg (by omega), zpow_neg, one_div, inv_inv]

/-- The numerator of `b ^ e`. -/
def powNum (b : Nat) (e : ℤ) : Nat := if e ≥ 0 then b ^ e.toNat else 1

/-- The denominator of `b ^ e`. -/
def powDen (b : Nat) (e : ℤ) : Nat := if e ≥ 0 then 1 else b ^ (-e).toNat

theorem powNum_pos {b : Nat} (hb : 0 < b) (e : ℤ) : 0 < powNum b e := by
  unfold powNum
  split_ifs <;> positivity

theorem powDen_pos {b : Nat} (hb : 0 < b) (e : ℤ) : 0 < powDen b e := by
  unfold powDen
  split_ifs <;> positivity

/-- A power is the quotient of its numerator and its denominator. -/
theorem powNum_div_powDen (b : Nat) (e : ℤ) : (powNum b e / powDen b e : ℚ) = b ^ e := by
  unfold powNum powDen
  split_ifs with he
  · rw [zpow_of_nonneg _ he]
    simp
  · rw [zpow_of_neg _ (not_le.1 he)]
    simp

/-- A power times its denominator is its numerator. -/
theorem zpow_mul_powDen {b : Nat} (hb : 0 < b) (e : ℤ) : (b : ℚ) ^ e * powDen b e = powNum b e := by
  have hden : (powDen b e : ℚ) ≠ 0 := by exact_mod_cast (powDen_pos hb e).ne'
  rw [← powNum_div_powDen, div_mul_cancel₀ _ hden]

theorem powDen_div_powNum (b : Nat) (e : ℤ) : (powDen b e / powNum b e : ℚ) = 1 / b ^ e := by
  rw [← powNum_div_powDen, one_div_div]

end LoraConcentrator
