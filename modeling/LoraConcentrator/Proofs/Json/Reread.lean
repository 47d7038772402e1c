import LoraConcentrator.Proofs.Json.Separation
import Mathlib.Algebra.Ring.Parity

/-!
# Numbers that are read again

Every number of thirty-two bits is read again from its shortest digits (`rereads`), although reading
rounds three times: the power of ten, the scaled significand and its conversion to thirty-two bits.
The digits are well inside the interval of the number, or at an end of it where nothing is rounded
before the conversion, or the number is one of those that were tested (`inside_or_end`).
-/

namespace LoraConcentrator.Json

open Binary Binary.Format Decimal

variable {m a b gap i : Nat} {q : ℤ} {pair : Nat × Nat} {y v : ℚ}

/-! ### Multiples near the ends of an interval -/

/-- An odd multiple that is nearer than the separation is equal, or its neighbours are read
again. -/
theorem Harmless.cases (h : Harmless q pair gap) (hnear : i * gap < separation q)
    (hb : b = i * pair.2) (hodd : b % 2 = 1) (hlt : b < 2 ^ 25) :
    gap = 0 ∧ -20 ≤ decimalUnit q ∧ decimalUnit q ≤ 14 ∨
      ∀ m ∈ [b / 2, b / 2 + 1], 2 ^ 23 ≤ m ∨ q = -149 → Rereads m q := by
  obtain ⟨hi, hpair⟩ : i % 2 = 1 ∧ pair.2 % 2 = 1 := by
    rw [hb, ← Nat.odd_iff, Nat.odd_mul] at hodd
    exact ⟨Nat.odd_iff.1 hodd.1, Nat.odd_iff.1 hodd.2⟩
  rcases h with hfar | hexact | ⟨hlarge, heven | hrereads⟩
  · have : gap ≤ i * gap := Nat.le_mul_of_pos_left _ (by omega)
    omega
  · exact .inl hexact
  · omega
  · -- the pair is too large to be repeated three times
    have hone : i = 1 := by
      by_contra hne
      have : 3 * pair.2 ≤ i * pair.2 := Nat.mul_le_mul_right _ (by omega)
      omega
    rw [hone, one_mul] at hb
    exact .inr (hb ▸ hrereads)

/-- What both units are multiplied with to make them whole. -/
def unitScale (q : ℤ) : Nat := powDen 10 (decimalUnit q) * powDen 2 (q - 1)

theorem unitScale_pos (q : ℤ) : (0 : ℚ) < unitScale q := by
  exact_mod_cast Nat.mul_pos (powDen_pos (by decide) _) (powDen_pos two_pos _)

/-- In these units a decimal unit is a whole number. -/
theorem unitScale_mul_decimal (q : ℤ) :
    (unitScale q * 10 ^ decimalUnit q : ℚ) = (unitRatio q).1 := by
  rw [unitScale, unitRatio]
  push_cast [← zpow_mul_powDen (b := 10) (by decide)]
  ring

theorem unitScale_mul_binary (q : ℤ) : (unitScale q * 2 ^ (q - 1) : ℚ) = (unitRatio q).2 := by
  rw [unitScale, unitRatio]
  push_cast [← zpow_mul_powDen two_pos]
  ring

/-- The difference of two multiples, made whole. -/
theorem cast_sub_eq (a b : Nat) (q : ℤ) :
    ((a * (unitRatio q).1 - b * (unitRatio q).2 : ℤ) : ℚ) =
      unitScale q * (a * 10 ^ decimalUnit q - b * 2 ^ (q - 1)) := by
  push_cast [← unitScale_mul_decimal, ← unitScale_mul_binary]
  ring

/-- Multiples below the limit are bounded. -/
theorem le_unitLimit (h : (a * 10 ^ decimalUnit q : ℚ) ≤ 2 ^ 25 * 2 ^ (q - 1)) :
    a ≤ unitLimit q := by
  have hpos : 0 < (unitRatio q).1 := Nat.mul_pos (powNum_pos (by decide) _) (powDen_pos two_pos _)
  have hscale := unitScale_pos q
  rw [unitLimit, Nat.le_div_iff_mul_le hpos]
  have : (a * (unitRatio q).1 : ℚ) ≤ 2 ^ 25 * (unitRatio q).2 := by
    calc (a * (unitRatio q).1 : ℚ) = unitScale q * (a * 10 ^ decimalUnit q) := by
          rw [← unitScale_mul_decimal]
          ring
      _ ≤ unitScale q * (2 ^ 25 * 2 ^ (q - 1)) := by gcongr
      _ = 2 ^ 25 * (unitRatio q).2 := by
          rw [← unitScale_mul_binary]
          ring
  exact_mod_cast this

/-- Multiples that are as near as the error of reading are less than the separation apart. -/
theorem abs_sub_lt_separation
    (h : |(a * 10 ^ decimalUnit q : ℚ) - b * 2 ^ (q - 1)| < 2 ^ (q - 1) / 2 ^ 26) :
    |(a * (unitRatio q).1 : ℤ) - b * (unitRatio q).2| < separation q := by
  have hscale := unitScale_pos q
  have hlt : ((|(a * (unitRatio q).1 : ℤ) - b * (unitRatio q).2| * 2 ^ 26 : ℤ) : ℚ) <
      (unitRatio q).2 := by
    rw [Int.cast_mul, Int.cast_abs, cast_sub_eq, abs_mul, abs_of_pos hscale,
      ← unitScale_mul_binary]
    push_cast
    rw [mul_assoc]
    gcongr
    rwa [← lt_div_iff₀ (by norm_num)]
  have hlt : |(a * (unitRatio q).1 : ℤ) - b * (unitRatio q).2| * 2 ^ 26 < (unitRatio q).2 := by
    exact_mod_cast hlt
  unfold separation
  omega

/-- Repetitions of a pair without a gap are equal. -/
theorem eq_of_pair (ha : a = i * pair.1) (hb : b = i * pair.2)
    (hpair : pair.1 * (unitRatio q).1 = pair.2 * (unitRatio q).2) :
    (a * 10 ^ decimalUnit q : ℚ) = b * 2 ^ (q - 1) := by
  have hproducts : (a * (unitRatio q).1 : ℤ) = b * (unitRatio q).2 := by
    rw [ha, hb]
    exact_mod_cast by rw [Nat.mul_assoc, hpair, Nat.mul_assoc]
  have hdifference := cast_sub_eq a b q
  rw [hproducts, sub_self, Int.cast_zero, zero_eq_mul, or_iff_right (unitScale_pos q).ne']
    at hdifference
  exact sub_eq_zero.1 hdifference

/-- The multiples of the decimal unit near to an odd multiple of half the binary unit. -/
theorem Settled.cases_of_near (h : Settled q) (hpos : 0 < a)
    (hle : (a * 10 ^ decimalUnit q : ℚ) ≤ 2 ^ 25 * 2 ^ (q - 1))
    (hodd : b % 2 = 1) (hlt : b < 2 ^ 25)
    (hnear : |(a * 10 ^ decimalUnit q : ℚ) - b * 2 ^ (q - 1)| < 2 ^ (q - 1) / 2 ^ 26) :
    (a * 10 ^ decimalUnit q : ℚ) = b * 2 ^ (q - 1) ∧
        -20 ≤ decimalUnit q ∧ decimalUnit q ≤ 14 ∨
      ∀ m ∈ [b / 2, b / 2 + 1], 2 ^ 23 ≤ m ∨ q = -149 → Rereads m q := by
  have hvalid : (approach q).Valid (unitRatio q).1 (unitRatio q).2 :=
    (Approach.valid_units _ _).refine 1500
  obtain ⟨i, ⟨ha, hb, hgap⟩ | ⟨ha, hb, hgap⟩⟩ := hvalid.eq_mul_of_near h.exhausts h.separation_le
    hpos (le_unitLimit hle) (abs_sub_lt_separation hnear)
  · refine (h.above.cases hgap hb hodd hlt).imp_left fun ⟨hzero, hrange⟩ ↦ ⟨?_, hrange⟩
    exact eq_of_pair ha hb (by rw [hvalid.above_eq, hzero, Nat.add_zero])
  · refine (h.below.cases hgap hb hodd hlt).imp_left fun ⟨hzero, hrange⟩ ↦ ⟨?_, hrange⟩
    exact eq_of_pair ha hb (by rw [hvalid.below_eq, hzero, Nat.add_zero])

/-! ### What digits are read as -/

/-- Digits are spelled as a whole number and a power of ten with their value. -/
theorem spelled_value (d : Digits) : ((spelled d).1 * 10 ^ (spelled d).2 : ℚ) = d.value := by
  unfold spelled
  split_ifs with h
  · rw [Digits.value, zpow_of_nonneg 10 h.1]
    push_cast
    rw [pow_succ, zpow_neg_one]
    ring
  · rfl

/-- Digits of a multiple of moderate size are read as a significand that is exact. -/
theorem spelled_ofMultiple {n : Nat} {u : ℤ} (hn : 0 < n) (hlt : n < 2 ^ 53) :
    0 < (spelled (.ofMultiple n u)).1 ∧ (spelled (.ofMultiple n u)).1 < 2 ^ 53 := by
  have hpos := Digits.significand_pos hn u
  have hvalue := spelled_value (.ofMultiple n u)
  unfold spelled at *
  split_ifs at hvalue ⊢ with h
  · refine ⟨by positivity, ?_⟩
    have hpoint : (Digits.ofMultiple n u).value < 10 ^ (13 : ℤ) :=
      (Digits.value_lt_pow_point n u).trans_le (zpow_le_zpow_right₀ (by norm_num) (by omega))
    rw [← hvalue, zpow_neg_one, ← div_eq_mul_inv, div_lt_iff₀ (by norm_num)] at hpoint
    have hbound := hpoint.trans (by norm_num : (10 : ℚ) ^ (13 : ℤ) * 10 < (2 ^ 53 : Nat))
    exact_mod_cast hbound
  · exact ⟨hpos, (Digits.significand_ofMultiple_le n u).trans_lt hlt⟩

/-- The power of ten that digits are read with is a tenth or between the unit of the multiple and
the size of the number. -/
theorem spelled_exponent {n : Nat} {u k : ℤ} (hn : 0 < n) (hk : (n * 10 ^ u : ℚ) < 10 ^ k) :
    (spelled (.ofMultiple n u)).2 = -1 ∨
      u ≤ (spelled (.ofMultiple n u)).2 ∧ (spelled (.ofMultiple n u)).2 < k := by
  unfold spelled
  split_ifs
  · exact .inl rfl
  · refine .inr ⟨Digits.le_unit_ofMultiple n u,
      (zpow_lt_zpow_iff_right₀ (by norm_num : (1 : ℚ) < 10)).1 ?_⟩
    have hone : (1 : ℚ) ≤ (Digits.ofMultiple n u).significand := by
      exact_mod_cast Digits.significand_pos hn u
    calc (10 : ℚ) ^ (Digits.ofMultiple n u).unit
        ≤ (Digits.ofMultiple n u).significand * 10 ^ (Digits.ofMultiple n u).unit :=
          le_mul_of_one_le_left (by positivity) hone
      _ = n * 10 ^ u := Digits.value_ofMultiple n u
      _ < 10 ^ k := hk

/-! ### Numbers that are read again -/

/-- A number of sixty-four bits becomes the number of thirty-two bits that it rounds to. -/
theorem convert_of_represents {bits : Nat} {s : Bool} (h : double.Represents bits s v)
    (hm : single.Canonical m q) (hpos : 0 < m)
    (hnormal : m ≠ 2 ^ single.fractionBits ∨ q = single.minExponent) (hv : Rounds m q v) :
    single.convert double bits = single.withSign s (single.pattern m q) := by
  obtain ⟨num, den, hden, hvalue, hconvert⟩ := convert_eq single h
  have hunit : (0 : ℚ) < 2 ^ q := by positivity
  have hone : (1 : ℚ) ≤ m := by exact_mod_cast hpos
  have hv_pos : 0 < v := by
    have := (abs_le.1 hv.abs_sub_le).1
    nlinarith
  have hnum : 0 < num := by
    refine Nat.pos_of_ne_zero fun hzero ↦ ?_
    rw [hzero, Nat.cast_zero, zero_div] at hvalue
    linarith
  rw [hconvert, Format.round, roundMagnitude_eq_pattern hm hnum hden (hvalue ▸ hv)]
  exact hnormal.imp_right .inl

/-- A number that is a little inside the interval stays inside with the error of a scaled
significand. -/
theorem rounds_of_inside (hm : m < 2 ^ 24) (hv : |v - y| < y / 2 ^ 51)
    (hy : |y - m * 2 ^ q| ≤ 2 ^ q / 2 - 2 ^ q / 2 ^ 27) : Rounds m q v := by
  have hunit : (0 : ℚ) < 2 ^ q := by positivity
  have hm' : (m + 1 : ℚ) ≤ 2 ^ 24 := by exact_mod_cast hm
  have hlarge : y ≤ 2 ^ 24 * 2 ^ q := by
    have := (abs_le.1 hy).2
    nlinarith
  have hclose : |v - m * 2 ^ q| < 2 ^ q / 2 := by
    calc |v - m * 2 ^ q| ≤ |v - y| + |y - m * 2 ^ q| := abs_sub_le ..
      _ < y / 2 ^ 51 + (2 ^ q / 2 - 2 ^ q / 2 ^ 27) := add_lt_add_of_lt_of_le hv hy
      _ ≤ 2 ^ q / 2 := by linarith
  exact ⟨hclose.le, fun h ↦ absurd h hclose.ne⟩

/-- The decimal unit is no smaller than the binary one. -/
theorem Settled.zpow_le (h : Settled q) : (2 : ℚ) ^ q ≤ 10 ^ decimalUnit q := by
  have hle : (powNum 2 q * powDen 10 (decimalUnit q) : ℚ) ≤
      powNum 10 (decimalUnit q) * powDen 2 q := by exact_mod_cast h.unit_le
  have htwo : (0 : ℚ) < powDen 2 q := by exact_mod_cast powDen_pos two_pos q
  have hten : (0 : ℚ) < powDen 10 (decimalUnit q) := by exact_mod_cast powDen_pos (by decide) _
  have := (div_le_div_iff₀ htwo hten).2 hle
  rw [powNum_div_powDen, powNum_div_powDen] at this
  exact_mod_cast this

/-- A tenth of it is smaller, by a margin. -/
theorem Settled.zpow_sub_one_le (h : Settled q) :
    (10 : ℚ) ^ (decimalUnit q - 1) ≤ 2 ^ q - 2 ^ q / 2 ^ 26 := by
  have hle : (powNum 10 (decimalUnit q - 1) * powDen 2 q * 2 ^ 26 +
      powNum 2 q * powDen 10 (decimalUnit q - 1) : ℚ) ≤
      powNum 2 q * powDen 10 (decimalUnit q - 1) * 2 ^ 26 := by exact_mod_cast h.lt_unit
  have htwo : (0 : ℚ) < powDen 2 q := by exact_mod_cast powDen_pos two_pos q
  have hten : (0 : ℚ) < powDen 10 (decimalUnit q - 1) := by
    exact_mod_cast powDen_pos (by decide) _
  calc (10 : ℚ) ^ (decimalUnit q - 1)
      = powNum 10 (decimalUnit q - 1) / powDen 10 (decimalUnit q - 1) :=
        (powNum_div_powDen 10 _).symm
    _ ≤ powNum 2 q / powDen 2 q * (1 - 1 / 2 ^ 26) := by
        rw [div_mul_eq_mul_div, div_le_div_iff₀ hten htwo]
        linarith
    _ = 2 ^ q - 2 ^ q / 2 ^ 26 := by
        rw [powNum_div_powDen]
        push_cast
        ring

/-- The multiple of which a number has the digits. -/
theorem exists_multiple (hm : single.Canonical m q) (hpos : 0 < m)
    (hnormal : m ≠ 2 ^ single.fractionBits ∨ q = single.minExponent) :
    ∃ n u, shortest single .even m q = .ofMultiple n u ∧ 0 < n ∧ n < 2 ^ 53 ∧
      decimalUnit q - 1 ≤ u ∧ (n * 10 ^ u : ℚ) < 10 ^ (decimalUnit q + 8) ∧
      Rounds m q (n * 10 ^ u) ∧
      (u = decimalUnit q - 1 → |(n * 10 ^ u : ℚ) - m * 2 ^ q| ≤ 10 ^ u / 2) := by
  have hsettled := settled_of_canonical hm
  have hunit : (0 : ℚ) < 2 ^ q := by positivity
  have hm_lo : (1 : ℚ) ≤ m := by exact_mod_cast hpos
  have hm_hi : (m + 1 : ℚ) ≤ 2 ^ 24 := by exact_mod_cast (bounds_of_canonical hm).1
  obtain ⟨n, u, hdigits, hu, hrounds, hnearest⟩ := exists_shortest .even hm hpos hnormal
    (by linarith [hsettled.zpow_sub_one_le]) hsettled.zpow_le
  obtain ⟨hlo, hhi⟩ := abs_le.1 hrounds.abs_sub_le
  have hn : 0 < n := by
    refine Nat.pos_of_ne_zero fun hzero ↦ ?_
    rw [hzero, Nat.cast_zero, zero_mul] at hlo
    nlinarith
  have hsize : (n * 10 ^ u : ℚ) ≤ 2 ^ 24 * 10 ^ decimalUnit q := by
    calc (n * 10 ^ u : ℚ) ≤ 2 ^ 24 * 2 ^ q := by nlinarith
      _ ≤ 2 ^ 24 * 10 ^ decimalUnit q := by gcongr; exact hsettled.zpow_le
  refine ⟨n, u, hdigits, hn, ?_, hu, ?_, hrounds, hnearest⟩
  · have hle : (10 : ℚ) ^ decimalUnit q ≤ 10 * 10 ^ u := by
      rw [← zpow_one_add₀ (by norm_num)]
      exact zpow_le_zpow_right₀ (by norm_num) (by omega)
    have hn_le : (n : ℚ) ≤ 2 ^ 24 * 10 := by
      refine le_of_mul_le_mul_right ?_ (by positivity : (0 : ℚ) < 10 ^ u)
      linarith
    have hlt : (n : ℚ) < (2 ^ 53 : Nat) := hn_le.trans_lt (by norm_num)
    exact_mod_cast hlt
  · calc (n * 10 ^ u : ℚ) ≤ 2 ^ 24 * 10 ^ decimalUnit q := hsize
      _ < 10 ^ (8 : ℤ) * 10 ^ decimalUnit q := by gcongr; norm_num
      _ = 10 ^ (decimalUnit q + 8) := by rw [zpow_add₀ (by norm_num), mul_comm]

/-- A multiple of the decimal unit that is near an end of the interval of the number it rounds to is
that end, or the number is read again. -/
theorem end_or_rereads (hm : single.Canonical m q) (ha : 0 < a)
    (hrounds : Rounds m q (a * 10 ^ decimalUnit q)) (hodd : b % 2 = 1) (hb : b < 2 ^ 25)
    (hend : m = b / 2 ∨ m = b / 2 + 1)
    (hnear : |(a * 10 ^ decimalUnit q : ℚ) - b * 2 ^ (q - 1)| < 2 ^ (q - 1) / 2 ^ 26) :
    (∃ b : Nat, b < 2 ^ 25 ∧ (a * 10 ^ decimalUnit q : ℚ) = b * 2 ^ (q - 1)) ∧
      -20 ≤ decimalUnit q ∧ decimalUnit q ≤ 14 ∨ Rereads m q := by
  have hunit : (0 : ℚ) < 2 ^ q := by positivity
  obtain ⟨hlt, -, -, hleading⟩ := bounds_of_canonical hm
  have hle : (a * 10 ^ decimalUnit q : ℚ) ≤ 2 ^ 25 * 2 ^ (q - 1) := by
    have hhi := (abs_le.1 hrounds.abs_sub_le).2
    have : (m + 1 : ℚ) ≤ 2 ^ 24 := by exact_mod_cast hlt
    rw [zpow_sub_one₀ two_ne_zero]
    nlinarith
  rcases (settled_of_canonical hm).cases_of_near ha hle hodd hb hnear with
    ⟨heq, hrange⟩ | hrereads
  · exact .inl ⟨⟨b, hb, heq⟩, hrange⟩
  · exact .inr (hrereads m (by simpa using hend) hleading)

/-- The same of a multiple of the decimal unit that is not well inside the interval: it is near the
end on its side of the number. -/
theorem inside_or_end_of_unit (hm : single.Canonical m q) (hpos : 0 < m) (ha : 0 < a)
    (hrounds : Rounds m q (a * 10 ^ decimalUnit q)) :
    |(a * 10 ^ decimalUnit q : ℚ) - m * 2 ^ q| ≤ 2 ^ q / 2 - 2 ^ q / 2 ^ 27 ∨
      (∃ b : Nat, b < 2 ^ 25 ∧ (a * 10 ^ decimalUnit q : ℚ) = b * 2 ^ (q - 1)) ∧
        -20 ≤ decimalUnit q ∧ decimalUnit q ≤ 14 ∨
      Rereads m q := by
  have hlt := (bounds_of_canonical hm).1
  have hhalf : (2 : ℚ) ^ (q - 1) = 2 ^ q / 2 := by rw [zpow_sub_one₀ two_ne_zero]; rfl
  obtain ⟨hlo, hhi⟩ := abs_le.1 hrounds.abs_sub_le
  refine or_iff_not_imp_left.2 fun hnot ↦ ?_
  rw [not_le] at hnot
  rcases le_total (a * 10 ^ decimalUnit q : ℚ) (m * 2 ^ q) with hbelow | habove
  · rw [abs_of_nonpos (by linarith)] at hnot
    refine end_or_rereads (b := 2 * m - 1) hm ha hrounds (by omega) (by omega) (by omega) ?_
    rw [Nat.cast_sub (by omega), hhalf, abs_lt]
    push_cast
    constructor <;> linarith
  · rw [abs_of_nonneg (by linarith)] at hnot
    refine end_or_rereads (b := 2 * m + 1) hm ha hrounds (by omega) (by omega) (by omega) ?_
    rw [hhalf, abs_lt]
    push_cast
    constructor <;> linarith

/-- A multiple that rounds to a number is well inside the interval, or at its end, or the number is
read again. -/
theorem inside_or_end {n : Nat} {u : ℤ} (hm : single.Canonical m q) (hpos : 0 < m)
    (hn : 0 < n) (hu : decimalUnit q - 1 ≤ u) (hrounds : Rounds m q (n * 10 ^ u))
    (hnearest : u = decimalUnit q - 1 → |(n * 10 ^ u : ℚ) - m * 2 ^ q| ≤ 10 ^ u / 2) :
    |(n * 10 ^ u : ℚ) - m * 2 ^ q| ≤ 2 ^ q / 2 - 2 ^ q / 2 ^ 27 ∨
      (∃ b : Nat, b < 2 ^ 25 ∧ (n * 10 ^ u : ℚ) = b * 2 ^ (q - 1)) ∧
        -20 ≤ decimalUnit q ∧ decimalUnit q ≤ 14 ∨
      Rereads m q := by
  rcases hu.eq_or_lt with hu | hu
  · -- the nearest multiple of a unit less than that of the number
    left
    have := hnearest hu.symm
    have hunit_le := (settled_of_canonical hm).zpow_sub_one_le
    rw [hu] at hunit_le
    linarith
  · -- a multiple of the decimal unit
    obtain ⟨k, hk⟩ := Int.eq_ofNat_of_zero_le (by omega : 0 ≤ u - decimalUnit q)
    have hmultiple : (n * 10 ^ u : ℚ) = (n * 10 ^ k : Nat) * 10 ^ decimalUnit q := by
      rw [show u = k + decimalUnit q by omega, zpow_add₀ (by norm_num), zpow_natCast]
      push_cast
      ring
    rw [hmultiple] at hrounds ⊢
    exact inside_or_end_of_unit hm hpos (by positivity) hrounds

/-- **The shortest digits of a number of thirty-two bits are read as that number.** -/
theorem rereads (hm : single.Canonical m q) (hpos : 0 < m) : Rereads m q := by
  obtain ⟨hlt, hq_lo, hq_hi, hleading⟩ := bounds_of_canonical hm
  by_cases hleast : m = 2 ^ single.fractionBits ∧ q ≠ single.minExponent
  · have := rereads_least (q + 149).toNat (by omega)
    rw [Int.toNat_of_nonneg (by omega), add_sub_cancel_right] at this
    rw [hleast.1]
    exact this
  have hnormal : m ≠ 2 ^ single.fractionBits ∨ q = single.minExponent := by tauto
  obtain ⟨n, u, hdigits, hn_pos, hn_lt, hu, hsize, hrounds, hnearest⟩ :=
    exists_multiple hm hpos hnormal
  have hrespelled : respelled m q = spelled (.ofMultiple n u) := by rw [respelled, hdigits]
  obtain ⟨hsig_pos, hsig_lt⟩ := spelled_ofMultiple (u := u) hn_pos hn_lt
  have hexponent := spelled_exponent hn_pos hsize
  have hvalue := (spelled_value (.ofMultiple n u)).trans (Digits.value_ofMultiple n u)
  rw [← hrespelled] at hsig_pos hsig_lt hexponent hvalue
  have hunit : -44 ≤ decimalUnit q ∧ decimalUnit q ≤ 32 := by
    unfold decimalUnit
    omega
  have hexponent_le : (respelled m q).2.natAbs ≤ 50 := by omega
  rcases inside_or_end hm hpos hn_pos hu hrounds hnearest with hinside | ⟨⟨b, hb, hend⟩, hrange⟩ | h
  · obtain ⟨v, hv, herror⟩ := exists_represents_scaledPattern hsig_pos hsig_lt hexponent_le
    rw [hvalue] at herror
    exact ⟨hsig_lt, hexponent_le, hv.lt_infinity, convert_of_represents hv hm hpos hnormal
      (rounds_of_inside hlt herror hinside)⟩
  · -- at the end of the interval every step is exact
    have hb_pos : 0 < b := by
      refine Nat.pos_of_ne_zero fun hzero ↦ ?_
      have : (0 : ℚ) < n * 10 ^ u := by positivity
      rw [hend, hzero] at this
      simp at this
    have hmin : double.minExponent = -1074 := by decide
    have htop : double.topExponent = 2047 := by decide
    have hbits : double.fractionBits = 52 := by decide
    obtain ⟨m', q', hm', hm'_pos, hexact⟩ := exists_canonical_mul double (j := q - 1) hb_pos
      (hb.trans (by decide)) (by omega) (by omega)
    have hv := represents_scaledPattern hsig_pos hsig_lt (by omega : (respelled m q).2.natAbs ≤ 22)
      hm' hm'_pos (by rw [hvalue, hend, hexact])
    rw [hvalue] at hv
    exact ⟨hsig_lt, hexponent_le, hv.lt_infinity,
      convert_of_represents hv hm hpos hnormal hrounds⟩
  · exact h

end LoraConcentrator.Json
