import LoraConcentrator.Proofs.Decimal.Shortest

/-!
# Shortest digits of thirty-two bits

The shortest digits of a number of thirty-two bits are a multiple of its decimal unit, the least
power of ten that is not less than the binary unit, or of a tenth of it (`exists_shortest`).
-/

namespace LoraConcentrator.Decimal

open Binary Binary.Format

variable {m : Nat} {q : ℤ} {tie : Tie}

/-- The significands and exponents of thirty-two bits. -/
theorem bounds_of_canonical (h : single.Canonical m q) :
    m < 2 ^ 24 ∧ -149 ≤ q ∧ q ≤ 104 ∧ (2 ^ 23 ≤ m ∨ q = -149) := by
  have hmin : single.minExponent = -149 := by decide
  have hinfinity : single.infinity = 255 * 2 ^ 23 := by decide
  obtain ⟨hlt, hle, hleading, hfinite⟩ := h
  rw [pattern, hmin, hinfinity] at hfinite
  rw [hmin] at hle hleading
  change m < 2 ^ 24 at hlt
  change 2 ^ 23 ≤ m ∨ q = -149 at hleading
  change (q - -149).toNat * 2 ^ 23 + m < 255 * 2 ^ 23 at hfinite
  refine ⟨hlt, hle, ?_, hleading⟩
  omega

/-- The decimal unit of a binary unit `2 ^ q`: the least power of ten that is not less. -/
def decimalUnit (q : ℤ) : ℤ := -(-q * 1233 / 4096)

theorem log2_mul_two_pow (hm : m ≠ 0) (k : Nat) : (m * 2 ^ k).log2 = m.log2 + k := by
  refine (Nat.log2_eq_iff (by positivity)).2 ⟨?_, ?_⟩
  · rw [Nat.pow_add]
    exact Nat.mul_le_mul_right _ (Nat.log2_self_le hm)
  · rw [Nat.add_right_comm, Nat.pow_add]
    exact Nat.mul_lt_mul_of_pos_right Nat.lt_log2_self (Nat.two_pow_pos _)

/-- The estimate of the binary logarithm from which the walk to the point starts. -/
theorem log2_value_sub (fmt : Format) (hm : m ≠ 0) :
    ((Interval.of fmt m q).value.log2 : ℤ) - (Interval.of fmt m q).denominator.log2 =
      m.log2 + q := by
  have hvalue : (Interval.of fmt m q).value = 4 * m * powNum 2 (q - 2) := rfl
  have hdenominator : (Interval.of fmt m q).denominator = powDen 2 (q - 2) := rfl
  have hfour : 4 * m = m * 2 ^ 2 := Nat.mul_comm ..
  have hone : Nat.log2 1 = 0 := by decide
  rw [hvalue, hdenominator, hfour]
  unfold powNum powDen
  split_ifs with hq
  · rw [log2_mul_two_pow (by positivity), log2_mul_two_pow hm, hone]
    omega
  · rw [Nat.mul_one, log2_mul_two_pow hm, Nat.log2_two_pow]
    omega

/-- The middle of the interval is the number. -/
theorem value_div_denominator (fmt : Format) (m : Nat) (q : ℤ) :
    ((Interval.of fmt m q).value / (Interval.of fmt m q).denominator : ℚ) = m * 2 ^ q := by
  have hvalue : (Interval.of fmt m q).value = 4 * m * powNum 2 (q - 2) := rfl
  rw [hvalue]
  push_cast
  rw [mul_div_assoc, Interval.powNum_div_denominator]
  ring

/-- The point of a number of thirty-two bits is at most eight places above its decimal unit. -/
theorem point_bounds (h : single.Canonical m q) (hpos : 0 < m)
    (hlo : (10 : ℚ) ^ (decimalUnit q - 1) < 2 ^ q) (hhi : (2 : ℚ) ^ q ≤ 10 ^ decimalUnit q) :
    decimalUnit q ≤ point (Interval.of single m q).value (Interval.of single m q).denominator ∧
      point (Interval.of single m q).value (Interval.of single m q).denominator ≤
        decimalUnit q + 8 := by
  obtain ⟨hm, hq_lo, hq_hi, -⟩ := bounds_of_canonical h
  have hlog : m.log2 < 24 := (Nat.log2_lt hpos.ne').2 hm
  have hbits := log2_value_sub (q := q) single hpos.ne'
  have hratio := value_div_denominator single m q
  have hden : 0 < (Interval.of single m q).denominator := powDen_pos two_pos (q - 2)
  have hunit : (0 : ℚ) < 2 ^ q := by positivity
  have hm_lo : (1 : ℚ) ≤ m := by exact_mod_cast hpos
  have hm_hi : (m : ℚ) < 10 ^ (8 : ℤ) := by
    have : (m : ℚ) < (2 ^ 24 : Nat) := by exact_mod_cast hm
    exact this.trans (by norm_num)
  unfold point
  dsimp only
  rw [hbits]
  constructor
  · refine le_pointFrom hden ?_ ?_
    · rw [hratio]
      nlinarith
    · unfold decimalUnit
      omega
  · refine pointFrom_le hden ?_ ?_
    · rw [hratio, zpow_add₀ (by norm_num), mul_comm]
      calc (2 ^ q * m : ℚ) ≤ 10 ^ decimalUnit q * m := by gcongr
        _ < 10 ^ decimalUnit q * 10 ^ (8 : ℤ) := by gcongr
    · unfold decimalUnit
      omega

/-- The shortest digits of a number of thirty-two bits are those of a multiple that rounds to it; a
multiple of a unit less than that of the number is the nearest one. -/
theorem exists_shortest (tie : Tie) (h : single.Canonical m q) (hpos : 0 < m)
    (hm : m ≠ 2 ^ single.fractionBits ∨ q = single.minExponent)
    (hlo : (10 : ℚ) ^ (decimalUnit q - 1) < 2 ^ q) (hhi : (2 : ℚ) ^ q ≤ 10 ^ decimalUnit q) :
    ∃ n u, shortest single tie m q = .ofMultiple n u ∧ decimalUnit q - 1 ≤ u ∧
      Rounds m q (n * 10 ^ u) ∧
      (u = decimalUnit q - 1 → |(n * 10 ^ u : ℚ) - m * 2 ^ q| ≤ 10 ^ u / 2) := by
  obtain ⟨hpoint_lo, hpoint_hi⟩ := point_bounds h hpos hlo hhi
  obtain ⟨n, u, hpick, hle, -, hsearch⟩ :=
    search_eq (Interval.pickUnit_ne_zero tie hpos hm) (Interval.pickUnit_ne_none tie hpos hm hlo) 20
      (point (Interval.of single m q).value (Interval.of single m q).denominator - 1)
      (by omega) (by omega)
  refine ⟨n, u, hsearch, hle, Interval.rounds_of_pickUnit hpos hm hpick, fun hu ↦ ?_⟩
  exact Interval.abs_sub_le_of_pickUnit hpos hm (hu ▸ hlo) hpick

end LoraConcentrator.Decimal
