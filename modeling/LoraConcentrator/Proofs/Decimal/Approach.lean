import Mathlib.Tactic.Linarith
import Mathlib.Tactic.LinearCombination
import Mathlib.Tactic.Ring

/-!
# Multiples of two units

How near can a multiple of one unit come to a multiple of another? The mediants of two pairs of
multiples, one from above and one from below, approach the ratio of the units. Every pair of
multiples is an integer combination of the two pairs (`Valid.basis`), and once the pairs are too
large to be added (`Exhausts`), two multiples that are nearer to each other than both gaps together
are repetitions of one of the pairs (`Valid.eq_mul_of_near`). So two pairs have to be looked at to
know all near ones.
-/

namespace LoraConcentrator.Decimal

/-- A multiple of a unit above one of another unit, and a multiple of the first below one of the
second. -/
structure Approach where
  /-- How often the first unit is taken, and how often the second. -/
  above : Nat × Nat
  aboveGap : Nat
  below : Nat × Nat
  belowGap : Nat
  deriving DecidableEq, Repr

namespace Approach

variable {A B limit a b bound : Nat} {p : Approach}

/-- The gaps are what they should be, and every pair of multiples is a combination of the two. -/
structure Valid (A B : Nat) (p : Approach) : Prop where
  above_eq : p.above.1 * A = p.above.2 * B + p.aboveGap
  below_eq : p.below.2 * B = p.below.1 * A + p.belowGap
  basis : p.above.1 * p.below.2 = p.below.1 * p.above.2 + 1

/-- The units themselves. -/
def units (A B : Nat) : Approach := ⟨(1, 0), A, (0, 1), B⟩

/-- Adds the two pairs in place of the one with the greater gap. -/
def step (p : Approach) : Approach :=
  if p.belowGap ≤ p.aboveGap then
    { p with above := p.above + p.below, aboveGap := p.aboveGap - p.belowGap }
  else { p with below := p.above + p.below, belowGap := p.belowGap - p.aboveGap }

/-- No multiple of the first unit up to the limit is a combination of both pairs. -/
def Exhausts (limit : Nat) (p : Approach) : Prop :=
  limit < p.above.1 + p.below.1 ∨ p.aboveGap = 0

instance : Decidable (p.Exhausts limit) := inferInstanceAs (Decidable (_ ∨ _))

/-- Steps until the limit is exhausted. -/
def refine (limit : Nat) : (fuel : Nat) → Approach → Approach
  | 0, p => p
  | fuel + 1, p => if p.Exhausts limit then p else refine limit fuel p.step

/-- The search starts with two steps that are known. -/
theorem valid_units (A B : Nat) : (units A B).Valid A B := by
  constructor <;> simp [units]

/-- One turn keeps both steps. -/
theorem Valid.step (h : p.Valid A B) : p.step.Valid A B := by
  obtain ⟨habove, hbelow, hbasis⟩ := h
  unfold Approach.step
  split_ifs with hle
  · exact ⟨by simp only [Prod.fst_add, Prod.snd_add, Nat.add_mul]; omega, hbelow, by
      simp only [Prod.fst_add, Prod.snd_add, Nat.add_mul, Nat.mul_add]; omega⟩
  · exact ⟨habove, by simp only [Prod.fst_add, Prod.snd_add, Nat.add_mul]; omega, by
      simp only [Prod.fst_add, Prod.snd_add, Nat.add_mul, Nat.mul_add]; omega⟩

theorem Valid.refine (h : p.Valid A B) (fuel : Nat) : (p.refine limit fuel).Valid A B := by
  induction fuel generalizing p with
  | zero => exact h
  | succ fuel ih =>
    unfold Approach.refine
    split_ifs
    · exact h
    · exact ih h.step

/-- Every pair of multiples is an integer combination of the two, and its gap is that of the
combination. -/
theorem Valid.exists_coordinates (h : p.Valid A B) (a b : Nat) :
    ∃ i j : ℤ, (a : ℤ) = i * p.above.1 + j * p.below.1 ∧ (b : ℤ) = i * p.above.2 + j * p.below.2 ∧
      (a * A - b * B : ℤ) = i * p.aboveGap - j * p.belowGap := by
  have habove : (p.above.1 * A : ℤ) = p.above.2 * B + p.aboveGap := by exact_mod_cast h.above_eq
  have hbelow : (p.below.2 * B : ℤ) = p.below.1 * A + p.belowGap := by exact_mod_cast h.below_eq
  have hbasis : (p.above.1 * p.below.2 : ℤ) = p.below.1 * p.above.2 + 1 := by
    exact_mod_cast h.basis
  obtain ⟨i, hi⟩ : ∃ i : ℤ, i = a * p.below.2 - b * p.below.1 := ⟨_, rfl⟩
  obtain ⟨j, hj⟩ : ∃ j : ℤ, j = b * p.above.1 - a * p.above.2 := ⟨_, rfl⟩
  have ha : (a : ℤ) = i * p.above.1 + j * p.below.1 := by
    rw [hi, hj]
    linear_combination (-a : ℤ) * hbasis
  have hb : (b : ℤ) = i * p.above.2 + j * p.below.2 := by
    rw [hi, hj]
    linear_combination (-b : ℤ) * hbasis
  refine ⟨i, j, ha, hb, ?_⟩
  rw [ha, hb]
  linear_combination i * habove - j * hbelow

/-- Multiples that are nearer to each other than the two gaps together are repetitions of one of
the two pairs. -/
theorem Valid.eq_mul_of_near (h : p.Valid A B) (hlimit : p.Exhausts limit)
    (hbound : bound ≤ p.aboveGap + p.belowGap) (hpos : 0 < a) (hle : a ≤ limit)
    (hnear : |(a * A : ℤ) - b * B| < bound) :
    ∃ i : Nat, (a = i * p.above.1 ∧ b = i * p.above.2 ∧ i * p.aboveGap < bound) ∨
      (a = i * p.below.1 ∧ b = i * p.below.2 ∧ i * p.belowGap < bound) := by
  obtain ⟨i, j, ha, hb, hgap⟩ := h.exists_coordinates a b
  obtain ⟨⟨s₁, p₁⟩, g₁, ⟨s₂, p₂⟩, g₂⟩ := p
  dsimp only at *
  rw [hgap, abs_lt] at hnear
  obtain ⟨hnear_lo, hnear_hi⟩ := hnear
  have ha_pos : (0 : ℤ) < a := by exact_mod_cast hpos
  have hbound : (bound : ℤ) ≤ g₁ + g₂ := by exact_mod_cast hbound
  have hmul : ∀ (k : ℤ) (n : Nat), 0 < k → (n : ℤ) ≤ k * n := fun k n hk ↦
    le_mul_of_one_le_left (Int.natCast_nonneg n) hk
  have hmul_neg : ∀ (k : ℤ) (n : Nat), k ≤ 0 → k * n ≤ 0 := fun k n hk ↦
    mul_nonpos_of_nonpos_of_nonneg hk (Int.natCast_nonneg n)
  have hmul_neg' : ∀ (k : ℤ) (n : Nat), k < 0 → k * n ≤ -n := fun k n hk ↦ by
    have := hmul (-k) n (by omega)
    rw [neg_mul] at this
    omega
  rcases lt_or_ge 0 i with hi_pos | hi_neg <;> rcases lt_or_ge 0 j with hj_pos | hj_neg
  · -- both pairs are used: the limit excludes that, and so does a gap of zero
    exfalso
    rcases hlimit with hlimit | hzero
    · have : (limit : ℤ) < s₁ + s₂ := by exact_mod_cast hlimit
      have : (a : ℤ) ≤ limit := by exact_mod_cast hle
      linarith [hmul i s₁ hi_pos, hmul j s₂ hj_pos]
    · have hzero : (g₁ : ℤ) = 0 := by exact_mod_cast hzero
      rw [hzero] at hnear_lo hbound
      linarith [hmul j g₂ hj_pos]
  · -- the second pair is not used, or the gaps add up
    obtain rfl | hj : j = 0 ∨ j < 0 := by omega
    · obtain ⟨i, rfl⟩ := Int.eq_ofNat_of_zero_le hi_pos.le
      rw [zero_mul, add_zero] at ha hb
      rw [zero_mul, sub_zero] at hnear_hi
      exact ⟨i, .inl ⟨by exact_mod_cast ha, by exact_mod_cast hb, by exact_mod_cast hnear_hi⟩⟩
    · linarith [hmul i g₁ hi_pos, hmul_neg' j g₂ hj]
  · -- the first pair is not used, or the gaps add up
    obtain rfl | hi : i = 0 ∨ i < 0 := by omega
    · obtain ⟨j, rfl⟩ := Int.eq_ofNat_of_zero_le hj_pos.le
      rw [zero_mul, zero_add] at ha hb
      rw [zero_mul, zero_sub, neg_lt_neg_iff] at hnear_lo
      exact ⟨j, .inr ⟨by exact_mod_cast ha, by exact_mod_cast hb, by exact_mod_cast hnear_lo⟩⟩
    · linarith [hmul j g₂ hj_pos, hmul_neg' i g₁ hi]
  · linarith [hmul_neg i s₁ hi_neg, hmul_neg j s₂ hj_neg]

end Approach

end LoraConcentrator.Decimal
