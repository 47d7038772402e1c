import LoraConcentrator.Binary.Single
import LoraConcentrator.Proofs.Powers
import Mathlib.Tactic.Linarith
import Mathlib.Tactic.Ring

/-!
# Rounding

A ratio is rounded to the nearest multiple of the unit that its leading exponent gives, and the
result is the pattern of that multiple. What this means for the values is stated without the
leading exponent: a ratio that is at most half a unit away from a number of the format
(`Rounds`) is rounded to the pattern of that number (`roundMagnitude_eq_pattern`), and any ratio in
the range of the numbers with a leading bit is rounded with a relative error of half a unit of the
last place (`exists_roundMagnitude_eq`). The numbers of a format are its `Canonical` pairs of
significand and exponent; a finite pattern and its canonical pair determine each other
(`decode_pattern`, `canonical_of_decode`).
-/

namespace LoraConcentrator.Binary.Format

/-! ### Nearest quotients -/

variable {num den : Nat}

theorem cast_div_add_mod (hden : 0 < den) :
    (num : ℚ) / den = (num / den : Nat) + (num % den : Nat) / (den : ℚ) := by
  have hdiv : ((den * (num / den) + num % den : Nat) : ℚ) = num :=
    congrArg Nat.cast (Nat.div_add_mod num den)
  have hden' : (den : ℚ) ≠ 0 := by positivity
  rw [← hdiv]
  push_cast
  field_simp

/-- The nearest quotient is less than half a unit away, or exactly half a unit and even. -/
theorem nearest_spec (num : Nat) (hden : 0 < den) :
    |(nearest num den : ℚ) - num / den| < 1 / 2 ∨
      |(nearest num den : ℚ) - num / den| = 1 / 2 ∧ nearest num den % 2 = 0 := by
  have hden' : (0 : ℚ) < den := by exact_mod_cast hden
  have hlt_one : ((num % den : Nat) : ℚ) / den < 1 :=
    (div_lt_one hden').2 (by exact_mod_cast Nat.mod_lt num hden)
  have hnonneg : (0 : ℚ) ≤ (num % den : Nat) / den := by positivity
  rw [cast_div_add_mod hden]
  unfold nearest
  dsimp only
  split_ifs with hlt hgt heven
  · have h : ((num % den : Nat) : ℚ) / den < 1 / 2 := by
      rw [div_lt_div_iff₀ hden' two_pos]
      exact_mod_cast (by omega : num % den * 2 < 1 * den)
    exact .inl (abs_lt.2 ⟨by linarith, by linarith⟩)
  · have h : 1 / 2 < ((num % den : Nat) : ℚ) / den := by
      rw [div_lt_div_iff₀ two_pos hden']
      exact_mod_cast (by omega : 1 * den < num % den * 2)
    push_cast
    exact .inl (abs_lt.2 ⟨by linarith, by linarith⟩)
  all_goals
    have h : ((num % den : Nat) : ℚ) / den = 1 / 2 := by
      rw [div_eq_div_iff hden'.ne' two_ne_zero]
      exact_mod_cast (by omega : num % den * 2 = 1 * den)
    rw [h]
    refine .inr ⟨?_, by omega⟩
    push_cast
    norm_num

theorem abs_nearest_sub_le (num : Nat) (hden : 0 < den) :
    |(nearest num den : ℚ) - num / den| ≤ 1 / 2 := by
  rcases nearest_spec num hden with h | h
  exacts [h.le, h.1.le]

/-- No other integer is less than half a unit away, and of two integers half a unit away the
nearest quotient is the even one. -/
theorem nearest_eq {k : Nat} (hden : 0 < den) (hle : |(k : ℚ) - num / den| ≤ 1 / 2)
    (heven : |(k : ℚ) - num / den| = 1 / 2 → k % 2 = 0) : nearest num den = k := by
  obtain ⟨hlo, hhi⟩ := abs_le.1 (abs_nearest_sub_le num hden)
  obtain ⟨hlo', hhi'⟩ := abs_le.1 hle
  have hup : nearest num den ≤ k + 1 := by
    exact_mod_cast (by linarith : (nearest num den : ℚ) ≤ k + 1)
  have hdown : k ≤ nearest num den + 1 := by
    exact_mod_cast (by linarith : (k : ℚ) ≤ nearest num den + 1)
  -- two different integers would both be halfway and even
  by_contra hne
  have htie : |(nearest num den : ℚ) - num / den| = 1 / 2 ∧ |(k : ℚ) - num / den| = 1 / 2 := by
    obtain h | h : nearest num den = k + 1 ∨ k = nearest num den + 1 := by omega
    · rw [h] at hlo hhi ⊢
      push_cast at hlo hhi ⊢
      rw [abs_of_nonneg (by linarith), abs_of_nonpos (by linarith)]
      constructor <;> linarith
    · rw [h] at hlo' hhi' ⊢
      push_cast at hlo' hhi' ⊢
      rw [abs_of_nonpos (by linarith), abs_of_nonneg (by linarith)]
      constructor <;> linarith
  obtain h | ⟨-, h⟩ := nearest_spec num hden
  · linarith [htie.1]
  · have := heven htie.2
    omega

/-! ### The leading exponent -/

/-- A positive ratio against a power of two, as it is computed. -/
theorem zpow_le_div_iff (num : Nat) (hden : 0 < den) (e : ℤ) :
    (2 : ℚ) ^ e ≤ num / den ↔
      if e ≥ 0 then den * 2 ^ e.toNat ≤ num else den ≤ num * 2 ^ (-e).toNat := by
  have hden' : (0 : ℚ) < den := by exact_mod_cast hden
  rw [le_div_iff₀ hden']
  split_ifs with he
  · rw [zpow_of_nonneg 2 he]
    norm_cast
    rw [Nat.mul_comm]
  · rw [zpow_of_neg 2 (not_le.1 he), div_mul_eq_mul_div, one_mul, div_le_iff₀ (by positivity)]
    norm_cast

/-- The leading exponent of a positive ratio. -/
theorem leadingExponent_spec (hnum : 0 < num) (hden : 0 < den) :
    (2 : ℚ) ^ leadingExponent num den ≤ num / den ∧
      (num / den : ℚ) < 2 ^ (leadingExponent num den + 1) := by
  have hden' : (0 : ℚ) < den := by exact_mod_cast hden
  have hnum_lo : (2 : ℚ) ^ (num.log2 : ℤ) ≤ num := by
    exact_mod_cast Nat.log2_self_le hnum.ne'
  have hnum_hi : (num : ℚ) < 2 ^ (num.log2 + 1 : ℤ) := by
    exact_mod_cast Nat.lt_log2_self (n := num)
  have hden_lo : (2 : ℚ) ^ (den.log2 : ℤ) ≤ den := by
    exact_mod_cast Nat.log2_self_le hden.ne'
  have hden_hi : (den : ℚ) < 2 ^ (den.log2 + 1 : ℤ) := by
    exact_mod_cast Nat.lt_log2_self (n := den)
  -- the ratio lies within one power of two of the guess
  have hlo : (2 : ℚ) ^ ((num.log2 : ℤ) - den.log2 - 1) ≤ num / den := by
    rw [le_div_iff₀ hden']
    calc (2 : ℚ) ^ ((num.log2 : ℤ) - den.log2 - 1) * den
        ≤ 2 ^ ((num.log2 : ℤ) - den.log2 - 1) * 2 ^ (den.log2 + 1 : ℤ) := by gcongr
      _ = 2 ^ (num.log2 : ℤ) := by rw [← zpow_add₀ two_ne_zero]; congr 1; omega
      _ ≤ num := hnum_lo
  have hhi : (num / den : ℚ) < 2 ^ ((num.log2 : ℤ) - den.log2 + 1) := by
    rw [div_lt_iff₀ hden']
    calc (num : ℚ) < 2 ^ (num.log2 + 1 : ℤ) := hnum_hi
      _ = 2 ^ ((num.log2 : ℤ) - den.log2 + 1) * 2 ^ (den.log2 : ℤ) := by
        rw [← zpow_add₀ two_ne_zero]; congr 1; omega
      _ ≤ 2 ^ ((num.log2 : ℤ) - den.log2 + 1) * den := by gcongr
  have hreached := zpow_le_div_iff num hden ((num.log2 : ℤ) - den.log2)
  unfold leadingExponent
  dsimp only
  split_ifs at hreached ⊢ with hsign h h
  · exact ⟨hreached.2 h, hhi⟩
  · exact ⟨hlo, by simpa using (not_congr hreached).2 h⟩
  · exact ⟨hreached.2 h, hhi⟩
  · exact ⟨hlo, by simpa using (not_congr hreached).2 h⟩

/-! ### Patterns of numbers -/

variable (fmt : Format)

/-- The pattern without sign of `m * 2 ^ q`. -/
def pattern (m : Nat) (q : ℤ) : Nat :=
  (q - fmt.minExponent).toNat * 2 ^ fmt.fractionBits + m

/-- A significand and an exponent as a format has them: the leading bit is set unless the exponent
is the least, and the pattern is below that of infinity. -/
structure Canonical (m : Nat) (q : ℤ) : Prop where
  significand_lt : m < 2 ^ (fmt.fractionBits + 1)
  minExponent_le : fmt.minExponent ≤ q
  leading : 2 ^ fmt.fractionBits ≤ m ∨ q = fmt.minExponent
  finite : fmt.pattern m q < fmt.infinity

variable {fmt} {m : Nat} {q : ℤ}

/-- The pattern of a number with the least exponent is its significand. -/
theorem pattern_minExponent (fmt : Format) (m : Nat) : fmt.pattern m fmt.minExponent = m := by
  simp [pattern]

/-- The leading bit of the significand is not in the pattern but counts to the exponent field. -/
theorem pattern_leading (fmt : Format) (field fraction : Nat) :
    fmt.pattern (fraction + 2 ^ fmt.fractionBits) (fmt.minExponent + field) =
      (field + 1) * 2 ^ fmt.fractionBits + fraction := by
  rw [pattern, add_sub_cancel_left, Int.toNat_natCast, Nat.add_mul]
  omega

theorem signBit_pos : 0 < fmt.signBit := Nat.two_pow_pos _

theorem infinity_lt_signBit : fmt.infinity < fmt.signBit := by
  unfold infinity signBit topExponent
  rw [Nat.pow_add]
  exact Nat.mul_lt_mul_of_pos_right (Nat.sub_lt (Nat.two_pow_pos _) one_pos) (Nat.two_pow_pos _)

/-- The fields of a pattern with a sign. -/
theorem fields_withSign (negative : Bool) {bits : Nat} (h : bits < fmt.infinity) :
    fmt.withSign negative bits % 2 ^ fmt.fractionBits = bits % 2 ^ fmt.fractionBits ∧
      fmt.withSign negative bits / 2 ^ fmt.fractionBits % 2 ^ fmt.exponentBits =
        bits / 2 ^ fmt.fractionBits ∧
      decide (fmt.withSign negative bits / fmt.signBit % 2 = 1) = negative := by
  have hF : 0 < 2 ^ fmt.fractionBits := Nat.two_pow_pos _
  have hsign : bits < fmt.signBit := h.trans infinity_lt_signBit
  have hfield : bits / 2 ^ fmt.fractionBits < 2 ^ fmt.exponentBits := by
    rw [Nat.div_lt_iff_lt_mul hF, ← Nat.pow_add]
    exact hsign
  cases negative with
  | false =>
    simp only [withSign, Bool.false_eq_true, if_false, Nat.mod_eq_of_lt hfield,
      Nat.div_eq_of_lt hsign, true_and]
    decide
  | true =>
    have hsplit : fmt.signBit + bits = 2 ^ fmt.fractionBits * 2 ^ fmt.exponentBits + bits := by
      rw [signBit, Nat.pow_add, Nat.mul_comm]
    refine ⟨?_, ?_, ?_⟩
    · simp only [withSign, if_true, hsplit, Nat.mul_add_mod]
    · simp only [withSign, if_true, hsplit, Nat.mul_add_div hF, Nat.add_mod_left,
        Nat.mod_eq_of_lt hfield]
    · have hone : (fmt.signBit + bits) / fmt.signBit = 1 := by
        rw [Nat.add_div_left bits signBit_pos, Nat.div_eq_of_lt hsign]
      simp only [withSign, if_true, hone]
      decide

/-- The exponent field of a finite pattern. -/
theorem exponentField_lt {bits : Nat} (h : bits < fmt.infinity) :
    bits / 2 ^ fmt.fractionBits < fmt.topExponent :=
  (Nat.div_lt_iff_lt_mul (Nat.two_pow_pos _)).2 h

/-- A finite pattern stands for the same number with either sign. -/
theorem exists_decode_withSign {bits : Nat} (h : bits < fmt.infinity) :
    ∃ m q, ∀ negative, fmt.decode (fmt.withSign negative bits) = .finite negative m q := by
  have htop := (exponentField_lt h).ne
  have hdecode : ∀ negative, fmt.decode (fmt.withSign negative bits) =
      if bits / 2 ^ fmt.fractionBits = 0 then
        .finite negative (bits % 2 ^ fmt.fractionBits) fmt.minExponent
      else
        .finite negative (bits % 2 ^ fmt.fractionBits + 2 ^ fmt.fractionBits)
          (fmt.minExponent + (bits / 2 ^ fmt.fractionBits - 1 : Nat)) := by
    intro negative
    obtain ⟨hfraction, hfield, hsign⟩ := fields_withSign negative h
    unfold decode
    dsimp only
    rw [hfraction, hfield, if_neg htop, hsign]
  by_cases hzero : bits / 2 ^ fmt.fractionBits = 0
  · exact ⟨_, _, fun negative ↦ (hdecode negative).trans (if_pos hzero)⟩
  · exact ⟨_, _, fun negative ↦ (hdecode negative).trans (if_neg hzero)⟩

/-- A canonical number is what its pattern stands for. -/
theorem decode_pattern (h : fmt.Canonical m q) (negative : Bool) :
    fmt.decode (fmt.withSign negative (fmt.pattern m q)) = .finite negative m q := by
  have hF : 0 < 2 ^ fmt.fractionBits := Nat.two_pow_pos _
  obtain ⟨hfraction, hfield, hsign⟩ := fields_withSign negative h.finite
  have htop := (exponentField_lt h.finite).ne
  have hlt := h.significand_lt
  rw [Nat.pow_succ] at hlt
  unfold decode
  dsimp only
  rw [hfraction, hfield, if_neg htop, hsign]
  by_cases hm : m < 2 ^ fmt.fractionBits
  · -- without leading bit the exponent is the least and its field is zero
    obtain rfl : q = fmt.minExponent := h.leading.resolve_left hm.not_ge
    rw [pattern_minExponent, Nat.div_eq_of_lt hm, if_pos rfl, Nat.mod_eq_of_lt hm]
  · obtain ⟨fraction, rfl⟩ := Nat.exists_eq_add_of_le' (Nat.le_of_not_lt hm)
    obtain ⟨field, hq⟩ := Int.eq_ofNat_of_zero_le (sub_nonneg.2 h.minExponent_le)
    obtain rfl : q = fmt.minExponent + field := by omega
    have hrest : fraction < 2 ^ fmt.fractionBits := by omega
    rw [pattern_leading, Nat.mul_comm, Nat.mul_add_mod, Nat.mod_eq_of_lt hrest,
      Nat.mul_add_div hF, Nat.div_eq_of_lt hrest, if_neg (by omega)]
    rfl

/-- A pattern is its sign, its exponent field and its fraction. -/
theorem eq_withSign_fields {bits : Nat} (hbits : bits < 2 * fmt.signBit) :
    bits = fmt.withSign (decide (bits / fmt.signBit % 2 = 1))
      (bits / 2 ^ fmt.fractionBits % 2 ^ fmt.exponentBits * 2 ^ fmt.fractionBits +
        bits % 2 ^ fmt.fractionBits) := by
  have hsign : bits / fmt.signBit < 2 := (Nat.div_lt_iff_lt_mul signBit_pos).2 hbits
  have hfields : bits / 2 ^ fmt.fractionBits % 2 ^ fmt.exponentBits * 2 ^ fmt.fractionBits +
      bits % 2 ^ fmt.fractionBits = bits % fmt.signBit := by
    rw [signBit, Nat.add_comm fmt.exponentBits, Nat.pow_add, Nat.mod_mul, Nat.mul_comm,
      Nat.add_comm]
  have hsplit : fmt.signBit * (bits / fmt.signBit) + bits % fmt.signBit = bits :=
    Nat.div_add_mod bits fmt.signBit
  rw [hfields, withSign]
  obtain h | h := Nat.le_one_iff_eq_zero_or_eq_one.1 (Nat.lt_succ_iff.1 hsign)
  · rw [h] at hsplit ⊢
    simpa using hsplit.symm
  · rw [h] at hsplit ⊢
    simpa using hsplit.symm

/-- An exponent field that is not the greatest makes a finite pattern. -/
theorem fields_lt_infinity {field fraction : Nat} (hfield : field < 2 ^ fmt.exponentBits)
    (htop : field ≠ fmt.topExponent) (hfraction : fraction < 2 ^ fmt.fractionBits) :
    field * 2 ^ fmt.fractionBits + fraction < fmt.infinity := by
  have : field + 1 ≤ fmt.topExponent := by
    unfold topExponent at *
    omega
  calc field * 2 ^ fmt.fractionBits + fraction
      < (field + 1) * 2 ^ fmt.fractionBits := by rw [Nat.add_mul]; omega
    _ ≤ fmt.infinity := Nat.mul_le_mul_right _ this

/-- What a pattern stands for is a canonical number of that pattern. -/
theorem canonical_of_decode {bits : Nat} {negative : Bool} (hbits : bits < 2 * fmt.signBit)
    (h : fmt.decode bits = .finite negative m q) :
    fmt.Canonical m q ∧ bits = fmt.withSign negative (fmt.pattern m q) := by
  have hbits := eq_withSign_fields hbits
  have hfraction : bits % 2 ^ fmt.fractionBits < 2 ^ fmt.fractionBits :=
    Nat.mod_lt _ (Nat.two_pow_pos _)
  have hfield : bits / 2 ^ fmt.fractionBits % 2 ^ fmt.exponentBits < 2 ^ fmt.exponentBits :=
    Nat.mod_lt _ (Nat.two_pow_pos _)
  unfold decode at h
  dsimp only at h
  generalize bits % 2 ^ fmt.fractionBits = fraction at *
  generalize bits / 2 ^ fmt.fractionBits % 2 ^ fmt.exponentBits = field at *
  generalize decide (bits / fmt.signBit % 2 = 1) = sign at *
  split_ifs at h with htop _ hzero
  · obtain ⟨rfl, rfl, rfl⟩ := Datum.finite.injEq .. ▸ h
    have hfinite := fields_lt_infinity hfield htop hfraction
    rw [hzero, Nat.zero_mul, Nat.zero_add] at hbits hfinite
    refine ⟨⟨?_, le_rfl, .inr rfl, ?_⟩, ?_⟩
    · rw [Nat.pow_succ]
      omega
    · rwa [pattern_minExponent]
    · rwa [pattern_minExponent]
  · obtain ⟨rfl, rfl, rfl⟩ := Datum.finite.injEq .. ▸ h
    have hfinite := fields_lt_infinity hfield htop hfraction
    obtain ⟨field, rfl⟩ := Nat.exists_eq_succ_of_ne_zero hzero
    rw [Nat.succ_sub_one]
    refine ⟨⟨?_, by omega, .inl (by omega), ?_⟩, ?_⟩
    · rw [Nat.pow_succ]
      omega
    · rwa [pattern_leading]
    · rwa [pattern_leading]

/-! ### The rounded pattern -/

/-- A positive ratio is rounded to the integer nearest to its multiple of the unit that its leading
exponent gives. -/
theorem roundMagnitude_eq (fmt : Format) (hnum : 0 < num) (hden : 0 < den) {e : ℤ}
    (he : e = max fmt.minExponent (leadingExponent num den - fmt.fractionBits)) :
    ∃ n d : Nat, 0 < d ∧ (n / d : ℚ) = num / den / 2 ^ e ∧
      fmt.roundMagnitude num den = min fmt.infinity (fmt.pattern (nearest n d) e) := by
  unfold roundMagnitude
  dsimp only
  rw [if_neg hnum.ne', ← he]
  split_ifs with hsign
  · refine ⟨num, den * 2 ^ e.toNat, by positivity, ?_, rfl⟩
    rw [zpow_of_nonneg 2 hsign]
    push_cast
    rw [div_div]
  · refine ⟨num * 2 ^ (-e).toNat, den, hden, ?_, rfl⟩
    rw [zpow_of_neg 2 (not_le.1 hsign)]
    push_cast
    field_simp

/-- A number is at most half a unit away from `m * 2 ^ q`, and at half a unit `m` is even. -/
structure Rounds (m : Nat) (q : ℤ) (y : ℚ) : Prop where
  abs_sub_le : |y - m * 2 ^ q| ≤ 2 ^ q / 2
  even : |y - m * 2 ^ q| = 2 ^ q / 2 → m % 2 = 0

theorem rounds_self (m : Nat) (q : ℤ) : Rounds m q (m * 2 ^ q) := by
  have : (0 : ℚ) < 2 ^ q / 2 := by positivity
  refine ⟨?_, fun h ↦ ?_⟩
  · rw [sub_self, abs_zero]
    exact this.le
  · rw [sub_self, abs_zero] at h
    linarith

/-- The distance in units. -/
theorem abs_sub_div (m : Nat) (q : ℤ) (y : ℚ) :
    |(m : ℚ) - y / 2 ^ q| = |y - m * 2 ^ q| / 2 ^ q := by
  have hunit : (0 : ℚ) < 2 ^ q := by positivity
  rw [abs_sub_comm, ← abs_of_pos hunit, ← abs_div, abs_of_pos hunit, sub_div,
    mul_div_cancel_right₀ _ hunit.ne']

/-- Such a ratio is rounded to `m * 2 ^ q`, unless it is below a significand that has the leading
bit alone: there the unit is halved. -/
theorem roundMagnitude_eq_pattern (h : fmt.Canonical m q) (hnum : 0 < num) (hden : 0 < den)
    (hy : Rounds m q (num / den))
    (hlow : m ≠ 2 ^ fmt.fractionBits ∨ q = fmt.minExponent ∨ (m * 2 ^ q : ℚ) ≤ num / den) :
    fmt.roundMagnitude num den = fmt.pattern m q := by
  have hunit : (0 : ℚ) < 2 ^ q := by positivity
  have hle : |(m : ℚ) - num / den / 2 ^ q| ≤ 1 / 2 := by
    rw [abs_sub_div, div_le_iff₀ hunit]
    linarith [hy.abs_sub_le]
  have heven : |(m : ℚ) - num / den / 2 ^ q| = 1 / 2 → m % 2 = 0 := by
    rw [abs_sub_div, div_eq_iff hunit.ne']
    exact fun h ↦ hy.even (by linarith)
  obtain ⟨hlo, hhi⟩ := leadingExponent_spec hnum hden
  obtain ⟨hge, hle'⟩ := abs_le.1 hle
  -- the leading exponent of the ratio is that of the number, or lower than any
  have hlt : leadingExponent num den < q + (fmt.fractionBits + 1 : Nat) := by
    refine (zpow_lt_zpow_iff_right₀ (one_lt_two : (1 : ℚ) < 2)).1 (hlo.trans_lt ?_)
    rw [zpow_add₀ two_ne_zero, mul_comm, ← div_lt_iff₀ hunit]
    have : (m + 1 : ℚ) ≤ 2 ^ (fmt.fractionBits + 1) := by exact_mod_cast h.significand_lt
    rw [zpow_natCast]
    linarith
  have hge_of_ne : q ≠ fmt.minExponent → q + fmt.fractionBits ≤ leadingExponent num den := by
    intro hq
    refine Int.lt_add_one_iff.1 ((zpow_lt_zpow_iff_right₀ (one_lt_two : (1 : ℚ) < 2)).1
      (lt_of_le_of_lt ?_ hhi))
    rw [zpow_add₀ two_ne_zero, mul_comm, ← le_div_iff₀ hunit, zpow_natCast]
    have hleading : 2 ^ fmt.fractionBits ≤ m := h.leading.resolve_right hq
    rcases hlow with hm | hmin | hm
    · have : (2 ^ fmt.fractionBits + 1 : ℚ) ≤ m := by
        exact_mod_cast Nat.lt_of_le_of_ne hleading (Ne.symm hm)
      linarith
    · exact absurd hmin hq
    · exact le_trans (by exact_mod_cast hleading) ((le_div_iff₀ hunit).2 hm)
  have he : q = max fmt.minExponent (leadingExponent num den - fmt.fractionBits) := by
    have := h.minExponent_le
    omega
  obtain ⟨n, d, hd, hratio, hround⟩ := roundMagnitude_eq fmt hnum hden he
  rw [hround, nearest_eq hd (by rwa [hratio]) (by rwa [hratio])]
  exact min_eq_right h.finite.le

/-- A significand rounded up to the next power of two is the least one of the next exponent; the
pattern and the value stay. -/
theorem exists_canonical (hleading : 2 ^ fmt.fractionBits ≤ m)
    (hle : m ≤ 2 ^ (fmt.fractionBits + 1)) (hmin : fmt.minExponent ≤ q)
    (htop : q - fmt.minExponent + 3 ≤ fmt.topExponent) :
    ∃ m' q', fmt.Canonical m' q' ∧ fmt.pattern m' q' = fmt.pattern m q ∧
      (m' * 2 ^ q' : ℚ) = m * 2 ^ q := by
  have hfinite : (q - fmt.minExponent).toNat * 2 ^ fmt.fractionBits + 2 ^ (fmt.fractionBits + 1) <
      fmt.infinity := by
    calc (q - fmt.minExponent).toNat * 2 ^ fmt.fractionBits + 2 ^ (fmt.fractionBits + 1)
        = ((q - fmt.minExponent).toNat + 2) * 2 ^ fmt.fractionBits := by ring
      _ < fmt.infinity := Nat.mul_lt_mul_of_pos_right (by omega) (Nat.two_pow_pos _)
  rcases hle.lt_or_eq with hlt | rfl
  · exact ⟨m, q, ⟨hlt, hmin, .inl hleading, by unfold pattern; omega⟩, rfl, rfl⟩
  · have hpattern : fmt.pattern (2 ^ fmt.fractionBits) (q + 1) =
        fmt.pattern (2 ^ (fmt.fractionBits + 1)) q := by
      have hshift : (q + 1 - fmt.minExponent).toNat = (q - fmt.minExponent).toNat + 1 := by omega
      rw [pattern, pattern, hshift]
      ring
    refine ⟨2 ^ fmt.fractionBits, q + 1, ⟨?_, by omega, .inl le_rfl, ?_⟩, hpattern, ?_⟩
    · exact Nat.pow_lt_pow_right one_lt_two (Nat.lt_succ_self _)
    · rw [hpattern]
      exact hfinite
    · rw [zpow_add₀ two_ne_zero]
      push_cast
      ring

/-- The integer nearest to a ratio between two powers of two is not outside of them. -/
theorem nearest_bounds {n d k : Nat} (hd : 0 < d) (hlo : (2 ^ k : ℚ) ≤ n / d)
    (hhi : (n / d : ℚ) < 2 ^ (k + 1)) : 2 ^ k ≤ nearest n d ∧ nearest n d ≤ 2 ^ (k + 1) := by
  obtain ⟨hge, hle⟩ := abs_le.1 (abs_nearest_sub_le n hd)
  have hlo' : (2 ^ k : ℚ) < nearest n d + 1 := by linarith
  have hhi' : (nearest n d : ℚ) < 2 ^ (k + 1) + 1 := by linarith
  exact ⟨Nat.lt_add_one_iff.1 (by exact_mod_cast hlo'),
    Nat.lt_add_one_iff.1 (by exact_mod_cast hhi')⟩

/-- Half a unit is small against a number with a leading bit. -/
theorem abs_sub_le_of_leading {n k : Nat} {e : ℤ} {y : ℚ} (hy : (2 ^ k : ℚ) ≤ y / 2 ^ e)
    (hn : |(n : ℚ) - y / 2 ^ e| ≤ 1 / 2) : |(n * 2 ^ e : ℚ) - y| ≤ y / 2 ^ (k + 1) := by
  have hunit : (0 : ℚ) < 2 ^ e := by positivity
  rw [abs_sub_div, div_le_iff₀ hunit] at hn
  rw [le_div_iff₀ hunit] at hy
  rw [abs_sub_comm, le_div_iff₀ (by positivity)]
  calc |y - n * 2 ^ e| * 2 ^ (k + 1) ≤ 1 / 2 * 2 ^ e * 2 ^ (k + 1) := by gcongr
    _ = 2 ^ k * 2 ^ e := by ring
    _ ≤ y := hy

/-- A ratio in the range of the numbers with a leading bit is rounded with a relative error of at
most half a unit of the last place. -/
theorem exists_roundMagnitude_eq (hden : 0 < den)
    (hlo : (2 : ℚ) ^ (fmt.minExponent + fmt.fractionBits) ≤ num / den)
    (hhi : (num / den : ℚ) < 2 ^ (fmt.minExponent + fmt.fractionBits + (fmt.topExponent - 2 : ℤ))) :
    ∃ m q, fmt.Canonical m q ∧ fmt.roundMagnitude num den = fmt.pattern m q ∧
      |(m * 2 ^ q : ℚ) - num / den| ≤ num / den / 2 ^ (fmt.fractionBits + 1) := by
  have hnum : 0 < num := by
    have : (0 : ℚ) < num / den := lt_of_lt_of_le (by positivity) hlo
    by_contra hzero
    simp [Nat.eq_zero_of_not_pos hzero] at this
  obtain ⟨hlead, hlead'⟩ := leadingExponent_spec hnum hden
  have hle : fmt.minExponent + fmt.fractionBits ≤ leadingExponent num den :=
    Int.lt_add_one_iff.1 ((zpow_lt_zpow_iff_right₀ (one_lt_two : (1 : ℚ) < 2)).1
      (hlo.trans_lt hlead'))
  have hlt : leadingExponent num den < fmt.minExponent + fmt.fractionBits + (fmt.topExponent - 2) :=
    (zpow_lt_zpow_iff_right₀ (one_lt_two : (1 : ℚ) < 2)).1 (hlead.trans_lt hhi)
  obtain ⟨e, he⟩ : ∃ e, leadingExponent num den = e + fmt.fractionBits :=
    ⟨leadingExponent num den - fmt.fractionBits, by omega⟩
  -- in units of `2 ^ e` the ratio has a leading bit
  have hunit : (0 : ℚ) < 2 ^ e := by positivity
  rw [he, zpow_add₀ two_ne_zero, mul_comm, ← le_div_iff₀ hunit, zpow_natCast] at hlead
  rw [he, add_assoc, zpow_add₀ two_ne_zero, mul_comm, ← div_lt_iff₀ hunit] at hlead'
  norm_cast at hlead'
  obtain ⟨n, d, hd, hratio, hround⟩ := roundMagnitude_eq fmt hnum hden (e := e) (by omega)
  obtain ⟨hleading, hbound⟩ := nearest_bounds (n := n) hd (hratio ▸ hlead)
    (by rw [hratio]; exact_mod_cast hlead')
  obtain ⟨m, q, hcanonical, hpattern, hvalue⟩ :=
    exists_canonical hleading hbound (by omega : fmt.minExponent ≤ e) (by omega)
  refine ⟨m, q, hcanonical, ?_, ?_⟩
  · rw [hround, ← hpattern]
    exact min_eq_right hcanonical.finite.le
  · rw [hvalue]
    exact abs_sub_le_of_leading hlead (hratio ▸ abs_nearest_sub_le n hd)

end LoraConcentrator.Binary.Format
