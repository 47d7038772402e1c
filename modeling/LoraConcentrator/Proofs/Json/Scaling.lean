import LoraConcentrator.Json.Number
import LoraConcentrator.Proofs.Binary.Arithmetic

/-!
# Scaled significands

A number that is read is a significand of sixty-four bits, multiplied or divided by a rounded power
of ten. Both are rounded, so the product may be two units of the last place away from what was
spelled (`exists_represents_scaledPattern`); where the power of ten is exact and the result has room
in the format, there is no error at all (`represents_scaledPattern`).
-/

namespace LoraConcentrator.Json

open Binary Binary.Format

variable {k n num den significand pattern : Nat} {e : ℤ} {s : Bool}

/-! ### Exact numbers and errors -/

/-- A number that the significand of sixty-four bits has room for is exact. -/
theorem represents_ofInt (hpos : 0 < n) (hlt : n < 2 ^ 53) :
    double.Represents (double.ofInt n) false n := by
  obtain ⟨m, q, hm, hm_pos, hvalue⟩ :=
    exists_canonical_mul double (j := 0) hpos hlt (by decide) (by decide)
  have heq : ((n : Nat) / (1 : Nat) : ℚ) = m * 2 ^ q := by
    rw [hvalue]
    simp
  have hround := represents_round (s := false) hm hm_pos one_pos heq
  have hsign : decide ((n : ℤ) < 0) = false := decide_eq_false (by omega)
  rw [ofInt, hsign, Int.natAbs_natCast]
  simpa using hround

/-- A ratio well inside the range of sixty-four bits is rounded with a relative error of at most
half a unit of the last place. -/
theorem exists_represents_double (hden : 0 < den) (hlo : (2 : ℚ) ^ (-250 : ℤ) ≤ num / den)
    (hhi : (num / den : ℚ) ≤ 2 ^ (250 : ℤ)) :
    ∃ v, double.Represents (double.round s num den) s v ∧
      |v - num / den| ≤ num / den / 2 ^ 53 := by
  have hmin : double.minExponent + double.fractionBits = -1022 := by decide
  have htop : double.minExponent + double.fractionBits + (double.topExponent - 2 : ℤ) = 1023 := by
    decide
  refine exists_represents_round double hden ?_ ?_
  · rw [hmin]
    exact (zpow_le_zpow_right₀ one_le_two (by decide)).trans hlo
  · rw [htop]
    exact hhi.trans_lt (zpow_lt_zpow_right₀ one_lt_two (by decide))

/-- A power of ten is at most half a unit of the last place away. -/
theorem exists_represents_powerOfTen (hk : k ≤ 50) :
    ∃ p, double.Represents (powerOfTen k) false p ∧ |p - 10 ^ k| ≤ 10 ^ k / 2 ^ 53 := by
  have hone : (1 : ℚ) ≤ (10 ^ k : Nat) := by exact_mod_cast Nat.one_le_pow _ _ (by decide)
  have hmax : ((10 ^ k : Nat) : ℚ) ≤ (10 ^ 50 : Nat) := by
    exact_mod_cast Nat.pow_le_pow_right (by decide) hk
  have hlo : (2 : ℚ) ^ (-250 : ℤ) ≤ ((10 ^ k : Nat) : ℚ) / (1 : Nat) := by
    rw [Nat.cast_one, div_one]
    exact le_trans (by norm_num) hone
  have hhi : ((10 ^ k : Nat) : ℚ) / (1 : Nat) ≤ 2 ^ (250 : ℤ) := by
    rw [Nat.cast_one, div_one]
    exact hmax.trans (by norm_num)
  obtain ⟨p, hp, herror⟩ := exists_represents_double (s := false) one_pos hlo hhi
  exact ⟨p, hp, by simpa using herror⟩

/-- A power of ten of which the odd part has room in the significand is exact. -/
theorem represents_powerOfTen (hk : k ≤ 22) : double.Represents (powerOfTen k) false (10 ^ k) := by
  have hlt : 5 ^ k < 2 ^ 53 := (Nat.pow_le_pow_right (by decide) hk).trans_lt (by decide)
  obtain ⟨m, q, hm, hm_pos, hvalue⟩ :=
    exists_canonical_mul double (j := k) (Nat.pow_pos (by decide) : 0 < 5 ^ k) hlt
      (by have : double.minExponent + double.fractionBits = -1022 := by decide
          omega)
      (by have : double.minExponent = -1074 := by decide
          have : double.topExponent = 2047 := by decide
          omega)
  have heq : (((10 ^ k : Nat) : ℚ) / (1 : Nat)) = m * 2 ^ q := by
    rw [hvalue, zpow_natCast]
    push_cast
    rw [div_one, ← mul_pow]
    norm_num
  have hround := represents_round (s := false) hm hm_pos one_pos heq
  simpa [powerOfTen] using hround

/-! ### Scaling -/

/-- A significand times a power of ten of sixty-four bits, whether it is too large or not. -/
def scaledPattern (significand : Nat) (e : ℤ) : Nat :=
  if e < 0 then double.div (double.ofInt significand) (powerOfTen (-e).toNat)
  else double.mul (double.ofInt significand) (powerOfTen e.toNat)

theorem scaled_eq (hlo : -308 ≤ e) (hhi : e ≤ 308)
    (hlt : scaledPattern significand e < double.infinity) :
    scaled significand e = some (scaledPattern significand e) := by
  unfold scaled scaledPattern at *
  split_ifs with hneg
  · unfold divided
    rw [if_pos (by unfold maxPower; omega)]
  · rw [if_neg hneg] at hlt
    exact if_pos hlt
  all_goals
    unfold maxPower at *
    omega

/-- A scaled significand is rounded from the product with the power of ten that is meant, where that
power is rounded to `p`. -/
theorem scaledPattern_eq {p : ℚ} (hpos : 0 < significand) (hlt : significand < 2 ^ 53)
    (hp : double.Represents (powerOfTen e.natAbs) false p) (hp_pos : 0 < p) :
    ∃ num den : Nat, 0 < den ∧ (num / den : ℚ) = significand * (if e < 0 then 1 / p else p) ∧
      scaledPattern significand e = double.round false num den := by
  unfold scaledPattern
  split_ifs with hneg
  · rw [show (-e).toNat = e.natAbs by omega]
    obtain ⟨num, den, hden, hvalue, hdiv⟩ := div_eq (represents_ofInt hpos hlt) hp hp_pos
    exact ⟨num, den, hden, by rw [hvalue]; ring, hdiv⟩
  · rw [show e.toNat = e.natAbs by omega]
    obtain ⟨num, den, hden, hvalue, hmul⟩ := mul_eq (represents_ofInt hpos hlt) hp
    exact ⟨num, den, hden, hvalue, hmul⟩

/-- The power of ten that is meant. -/
theorem zpow_natAbs (e : ℤ) :
    (if e < 0 then 1 / (10 : ℚ) ^ e.natAbs else 10 ^ e.natAbs) = 10 ^ e := by
  split_ifs with hneg
  · rw [zpow_of_neg 10 hneg, show (-e).toNat = e.natAbs by omega]
  · rw [zpow_of_nonneg 10 (not_lt.1 hneg), show e.toNat = e.natAbs by omega]

/-- Where the power of ten is exact, a scaled significand is what the exact product is rounded
to. -/
theorem represents_scaledPattern {m : Nat} {q : ℤ} (hpos : 0 < significand)
    (hlt : significand < 2 ^ 53) (he : e.natAbs ≤ 22) (hm : double.Canonical m q) (hm_pos : 0 < m)
    (heq : (significand * 10 ^ e : ℚ) = m * 2 ^ q) :
    double.Represents (scaledPattern significand e) false (significand * 10 ^ e) := by
  obtain ⟨num, den, hden, hvalue, hround⟩ :=
    scaledPattern_eq hpos hlt (represents_powerOfTen he) (by positivity)
  rw [zpow_natAbs] at hvalue
  rw [hround, ← hvalue]
  exact represents_round hm hm_pos hden (hvalue.trans heq)

/-- Multiplying or dividing by a power of ten that is rounded is multiplying by the power that is
meant, but for a relative error of one unit of the last place. -/
theorem abs_multiplier_sub_le {p : ℚ} (h : |p - 10 ^ e.natAbs| ≤ 10 ^ e.natAbs / 2 ^ 53) :
    |(if e < 0 then 1 / p else p) - 10 ^ e| ≤ 10 ^ e / 2 ^ 52 := by
  have hten : (0 : ℚ) < 10 ^ e.natAbs := by positivity
  rw [← zpow_natAbs]
  generalize (10 : ℚ) ^ e.natAbs = t at *
  have hp : t / 2 ≤ p := by linarith [(abs_le.1 h).1]
  have hp_pos : 0 < p := by linarith
  split_ifs
  · have hinv : 1 / p - 1 / t = (t - p) / (p * t) := by field_simp
    rw [hinv, abs_div, abs_of_pos (mul_pos hp_pos hten), abs_sub_comm, div_le_iff₀ (by positivity)]
    calc |p - t| ≤ t / 2 ^ 53 := h
      _ = t / 2 / 2 ^ 52 := by ring
      _ ≤ p / 2 ^ 52 := by gcongr
      _ = 1 / t / 2 ^ 52 * (p * t) := by field_simp
  · linarith

/-- A scaled significand is less than two units of the last place away from the exact product. -/
theorem exists_represents_scaledPattern (hpos : 0 < significand) (hlt : significand < 2 ^ 53)
    (he : e.natAbs ≤ 50) :
    ∃ v, double.Represents (scaledPattern significand e) false v ∧
      |v - significand * 10 ^ e| < significand * 10 ^ e / 2 ^ 51 := by
  obtain ⟨p, hp, herror⟩ := exists_represents_powerOfTen he
  have hp_pos : 0 < p := by
    have : (0 : ℚ) < 10 ^ e.natAbs := by positivity
    linarith [(abs_le.1 herror).1]
  obtain ⟨num, den, hden, hvalue, hround⟩ := scaledPattern_eq hpos hlt hp hp_pos
  have hmultiplier := abs_le.1 (abs_multiplier_sub_le herror)
  have hten_lo : (10 : ℚ) ^ (-50 : ℤ) ≤ 10 ^ e := zpow_le_zpow_right₀ (by norm_num) (by omega)
  have hten_hi : (10 : ℚ) ^ e ≤ 10 ^ (50 : ℤ) := zpow_le_zpow_right₀ (by norm_num) (by omega)
  have hsig_lo : (1 : ℚ) ≤ significand := by exact_mod_cast hpos
  have hsig_hi : (significand : ℚ) ≤ 2 ^ 53 := by exact_mod_cast hlt.le
  have hproduct_lo : (10 : ℚ) ^ (-50 : ℤ) ≤ significand * 10 ^ e := by
    calc (10 : ℚ) ^ (-50 : ℤ) ≤ 1 * 10 ^ e := by rwa [one_mul]
      _ ≤ significand * 10 ^ e := by gcongr
  have hproduct_hi : (significand * 10 ^ e : ℚ) ≤ 2 ^ 53 * 10 ^ (50 : ℤ) := by gcongr
  -- the ratio that is rounded has the error of the power
  have hratio_lo : significand * 10 ^ e - significand * 10 ^ e / 2 ^ 52 ≤ (num / den : ℚ) := by
    rw [hvalue]
    nlinarith [hmultiplier.1]
  have hratio_hi : (num / den : ℚ) ≤ significand * 10 ^ e + significand * 10 ^ e / 2 ^ 52 := by
    rw [hvalue]
    nlinarith [hmultiplier.2]
  have hlo : (2 : ℚ) ^ (-250 : ℤ) ≤ num / den := by
    norm_num at hproduct_lo ⊢
    linarith
  have hhi : (num / den : ℚ) ≤ 2 ^ (250 : ℤ) := by
    norm_num at hproduct_hi ⊢
    linarith
  obtain ⟨v, hv, hv_error⟩ := exists_represents_double (s := false) hden hlo hhi
  refine ⟨v, hround ▸ hv, ?_⟩
  have hv_error := abs_le.1 hv_error
  have hpositive : (0 : ℚ) < significand * 10 ^ e := by positivity
  rw [abs_lt]
  constructor <;> linarith

end LoraConcentrator.Json
