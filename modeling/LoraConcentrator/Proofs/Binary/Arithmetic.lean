import LoraConcentrator.Proofs.Binary.Rounding

/-!
# Arithmetic on patterns

Products, quotients and conversions of patterns are the exact results, rounded once. The relation
`Represents` names the rational number that a pattern stands for, so a sequence of operations is
followed on rational numbers.
-/

namespace LoraConcentrator.Binary.Format

variable {fmt source : Format} {a b bits num den m : Nat} {q : ℤ} {s t : Bool} {v w : ℚ}

/-- The pattern stands for the number of a sign and an absolute value. -/
def Represents (fmt : Format) (bits : Nat) (negative : Bool) (v : ℚ) : Prop :=
  ∃ m q, fmt.Canonical m q ∧ bits = fmt.withSign negative (fmt.pattern m q) ∧
    (m * 2 ^ q : ℚ) = v

namespace Represents

theorem lt_infinity (h : fmt.Represents bits false v) : bits < fmt.infinity := by
  obtain ⟨m, q, hm, rfl, -⟩ := h
  simpa [withSign] using hm.finite

/-- A pattern without sign gets one. -/
theorem withSign (h : fmt.Represents bits false v) (negative : Bool) :
    fmt.Represents (fmt.withSign negative bits) negative v := by
  obtain ⟨m, q, hm, rfl, hv⟩ := h
  exact ⟨m, q, hm, by simp [Format.withSign], hv⟩

end Represents

/-! ### Rounding -/

/-- A ratio in the range of the numbers with a leading bit is rounded with a relative error of at
most half a unit of the last place. -/
theorem exists_represents_round (fmt : Format) (hden : 0 < den)
    (hlo : (2 : ℚ) ^ (fmt.minExponent + fmt.fractionBits) ≤ num / den)
    (hhi : (num / den : ℚ) < 2 ^ (fmt.minExponent + fmt.fractionBits + (fmt.topExponent - 2 : ℤ))) :
    ∃ v, fmt.Represents (fmt.round s num den) s v ∧
      |v - num / den| ≤ num / den / 2 ^ (fmt.fractionBits + 1) := by
  obtain ⟨m, q, hm, hround, herror⟩ := exists_roundMagnitude_eq hden hlo hhi
  exact ⟨m * 2 ^ q, ⟨m, q, hm, by rw [round, hround], rfl⟩, herror⟩

/-- A number of the format is rounded to itself. -/
theorem represents_round (hm : fmt.Canonical m q) (hpos : 0 < m) (hden : 0 < den)
    (heq : (num / den : ℚ) = m * 2 ^ q) : fmt.Represents (fmt.round s num den) s (num / den) := by
  have hunit : (0 : ℚ) < 2 ^ q := by positivity
  have hnum : 0 < num := by
    refine Nat.pos_of_ne_zero fun hzero ↦ ?_
    rw [hzero, Nat.cast_zero, zero_div] at heq
    have : (0 : ℚ) < m * 2 ^ q := by positivity
    linarith
  refine ⟨m, q, hm, ?_, heq.symm⟩
  rw [round, roundMagnitude_eq_pattern hm hnum hden (heq ▸ rounds_self m q) (.inr (.inr heq.ge))]

/-- A product of a power of two and a number that the significand has room for is a number of the
format. -/
theorem exists_canonical_mul (fmt : Format) {k : Nat} {j : ℤ} (hpos : 0 < k)
    (hlt : k < 2 ^ (fmt.fractionBits + 1)) (hmin : fmt.minExponent + fmt.fractionBits ≤ j)
    (htop : j - fmt.minExponent + 2 ≤ fmt.topExponent) :
    ∃ m q, fmt.Canonical m q ∧ 0 < m ∧ (m * 2 ^ q : ℚ) = k * 2 ^ j := by
  have hlog : k.log2 ≤ fmt.fractionBits := Nat.lt_succ_iff.1 ((Nat.log2_lt hpos.ne').2 hlt)
  obtain ⟨shift, hshift⟩ := Nat.exists_eq_add_of_le hlog
  have hlo : 2 ^ fmt.fractionBits ≤ k * 2 ^ shift := by
    rw [hshift, Nat.pow_add]
    exact Nat.mul_le_mul_right _ (Nat.log2_self_le hpos.ne')
  have hhi : k * 2 ^ shift < 2 ^ (fmt.fractionBits + 1) := by
    rw [hshift, Nat.add_right_comm, Nat.pow_add]
    exact Nat.mul_lt_mul_of_pos_right Nat.lt_log2_self (Nat.two_pow_pos _)
  have hfinite : fmt.pattern (k * 2 ^ shift) (j - shift) < fmt.infinity := by
    calc fmt.pattern (k * 2 ^ shift) (j - shift)
        < (j - shift - fmt.minExponent).toNat * 2 ^ fmt.fractionBits +
          2 ^ (fmt.fractionBits + 1) := by unfold pattern; omega
      _ = ((j - shift - fmt.minExponent).toNat + 2) * 2 ^ fmt.fractionBits := by ring
      _ ≤ fmt.infinity := Nat.mul_le_mul_right _ (by omega)
  refine ⟨k * 2 ^ shift, j - shift, ⟨hhi, by omega, .inl hlo, hfinite⟩, by positivity, ?_⟩
  rw [zpow_sub₀ two_ne_zero, zpow_natCast]
  push_cast
  field_simp

/-! ### Operations -/

theorem roundScaled_eq (fmt : Format) (s : Bool) (m : Nat) (q : ℤ) :
    ∃ num den : Nat, 0 < den ∧ (num / den : ℚ) = m * 2 ^ q ∧
      fmt.roundScaled s m q = fmt.round s num den := by
  unfold roundScaled
  split_ifs with hq
  · exact ⟨_, _, one_pos, by rw [zpow_of_nonneg 2 hq]; push_cast; ring, rfl⟩
  · exact ⟨_, _, Nat.two_pow_pos _, by
      rw [zpow_of_neg 2 (not_le.1 hq)]; push_cast; ring, rfl⟩

/-- A product is rounded from the exact one. -/
theorem mul_eq (ha : fmt.Represents a s v) (hb : fmt.Represents b t w) :
    ∃ num den : Nat, 0 < den ∧ (num / den : ℚ) = v * w ∧
      fmt.mul a b = fmt.round (s != t) num den := by
  obtain ⟨m, p, hm, rfl, rfl⟩ := ha
  obtain ⟨n, q, hn, rfl, rfl⟩ := hb
  obtain ⟨num, den, hden, hvalue, hround⟩ := roundScaled_eq fmt (s != t) (m * n) (p + q)
  refine ⟨num, den, hden, ?_, ?_⟩
  · rw [hvalue, zpow_add₀ two_ne_zero]
    push_cast
    ring
  · rw [mul, decode_pattern hm, decode_pattern hn]
    exact hround

/-- A quotient is rounded from the exact one. -/
theorem div_eq (ha : fmt.Represents a s v) (hb : fmt.Represents b t w) (hw : 0 < w) :
    ∃ num den : Nat, 0 < den ∧ (num / den : ℚ) = v / w ∧
      fmt.div a b = fmt.round (s != t) num den := by
  obtain ⟨m, p, hm, rfl, rfl⟩ := ha
  obtain ⟨n, q, hn, rfl, rfl⟩ := hb
  have hpos : 0 < n := by
    refine Nat.pos_of_ne_zero fun hzero ↦ ?_
    simp [hzero] at hw
  unfold div
  rw [decode_pattern hm, decode_pattern hn]
  dsimp only
  split_ifs with hq
  · refine ⟨_, _, hpos, ?_, rfl⟩
    rw [mul_div_mul_comm, ← zpow_sub₀ two_ne_zero, zpow_of_nonneg 2 hq]
    push_cast
    ring
  · refine ⟨_, _, Nat.mul_pos hpos (Nat.two_pow_pos _), ?_, rfl⟩
    rw [mul_div_mul_comm, ← zpow_sub₀ two_ne_zero, zpow_of_neg 2 (not_le.1 hq)]
    push_cast
    field_simp

/-- A number of another format is rounded as it is. -/
theorem convert_eq (fmt : Format) (h : source.Represents bits s v) :
    ∃ num den : Nat, 0 < den ∧ (num / den : ℚ) = v ∧
      fmt.convert source bits = fmt.round s num den := by
  obtain ⟨m, q, hm, rfl, rfl⟩ := h
  rw [convert, decode_pattern hm]
  exact roundScaled_eq fmt s m q

/-- The sign of a finite number goes through a conversion. -/
theorem convert_withSign (h : bits < source.infinity) (negative : Bool) :
    fmt.convert source (source.withSign negative bits) =
      fmt.withSign negative (fmt.convert source bits) := by
  obtain ⟨m, q, hdecode⟩ := exists_decode_withSign h
  have hplain : source.decode bits = .finite false m q := hdecode false
  rw [convert, convert, hdecode, hplain]
  dsimp only
  unfold roundScaled
  split_ifs <;> rfl

end LoraConcentrator.Binary.Format
