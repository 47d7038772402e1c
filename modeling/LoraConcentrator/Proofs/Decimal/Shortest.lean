import LoraConcentrator.Proofs.Binary.Rounding
import LoraConcentrator.Proofs.Decimal.Digits

/-!
# Shortest digits

The search for the shortest digits of `m * 2 ^ q` tests the two multiples of a decimal unit around
the number. A multiple that lies in the interval rounds to the number (`rounds_of_pickUnit`), and a
unit less than the width of the interval always has one (`pickUnit_ne_none`), which is the nearest
(`abs_sub_le_of_pickUnit`); so the search ends there at the latest (`search_eq`). The interval is
the same to both sides of the number unless the significand has the leading bit alone, and only
such intervals are treated here.
-/

namespace LoraConcentrator.Decimal

open Binary

/-! ### The interval -/

namespace Interval

variable {i : Interval} {n num den k : Nat} {tie : Tie}

/-- The distance of the ends from the value, where it is the same for both. -/
structure Symmetric (i : Interval) (radius : Nat) : Prop where
  low_add : i.low + radius = i.value
  value_add : i.value + radius = i.high
  denominator_pos : 0 < i.denominator

/-- The value as a multiple of a unit `num / den`. -/
def multiple (i : Interval) (num den : Nat) : ℚ :=
  (i.value * den : Nat) / (num * i.denominator : Nat)

/-- Half the width of the interval as a multiple of a unit `num / den`. -/
def reach (i : Interval) (radius num den : Nat) : ℚ :=
  (radius * den : Nat) / (num * i.denominator : Nat)

variable {radius : Nat}

/-- An interval holds the multiples of a unit that are within its reach. -/
theorem holds_iff (hi : i.Symmetric radius) (hnum : 0 < num) :
    i.holds n num den = true ↔
      if i.closed then |(n : ℚ) - i.multiple num den| ≤ i.reach radius num den
      else |(n : ℚ) - i.multiple num den| < i.reach radius num den := by
  have hpos : (0 : ℚ) < (num * i.denominator : Nat) := by
    exact_mod_cast Nat.mul_pos hnum hi.denominator_pos
  have hlow : i.multiple num den - i.reach radius num den =
      (i.low * den : Nat) / (num * i.denominator : Nat) := by
    rw [multiple, reach, ← sub_div, ← hi.low_add]
    push_cast
    ring
  have hhigh : i.multiple num den + i.reach radius num den =
      (i.high * den : Nat) / (num * i.denominator : Nat) := by
    rw [multiple, reach, ← add_div, ← hi.value_add]
    push_cast
    ring
  have hscale : (n : ℚ) * (num * i.denominator : Nat) = (n * num * i.denominator : Nat) := by
    push_cast
    ring
  unfold holds
  dsimp only
  split_ifs
  · rw [decide_eq_true_iff, abs_sub_le_iff, sub_le_iff_le_add', sub_le_comm, hlow, hhigh,
      div_le_iff₀ hpos, le_div_iff₀ hpos, hscale, and_comm]
    norm_cast
  · rw [decide_eq_true_iff, abs_sub_lt_iff, sub_lt_iff_lt_add', sub_lt_comm, hlow, hhigh,
      div_lt_iff₀ hpos, lt_div_iff₀ hpos, hscale, and_comm]
    norm_cast

/-- The greatest multiple of a unit `num / den` that is not above the value. -/
def below (i : Interval) (num den : Nat) : Nat := i.value * den / (num * i.denominator)

/-- What the value has above that multiple. -/
def remainder (i : Interval) (num den : Nat) : Nat := i.value * den % (num * i.denominator)

theorem multiple_sub_below (den : Nat) (hi : i.Symmetric radius) (hnum : 0 < num) :
    i.multiple num den - i.below num den =
      (i.remainder num den : ℚ) / (num * i.denominator : Nat) :=
  sub_eq_iff_eq_add'.2 (Format.cast_div_add_mod (Nat.mul_pos hnum hi.denominator_pos))

/-- The multiple below is no larger than the number. -/
theorem below_le (den : Nat) (hi : i.Symmetric radius) (hnum : 0 < num) :
    (i.below num den : ℚ) ≤ i.multiple num den := by
  rw [← sub_nonneg, multiple_sub_below den hi hnum]
  positivity

/-- The next multiple is larger than the number. -/
theorem lt_below_add_one (den : Nat) (hi : i.Symmetric radius) (hnum : 0 < num) :
    i.multiple num den < i.below num den + 1 := by
  have hpos : 0 < num * i.denominator := Nat.mul_pos hnum hi.denominator_pos
  rw [← sub_lt_iff_lt_add', multiple_sub_below den hi hnum, div_lt_one (by exact_mod_cast hpos)]
  exact_mod_cast Nat.mod_lt _ hpos

/-- What is picked is held, and it is the nearer one of the two multiples around the value where
both are held. -/
theorem pick_eq_some (h : i.pick tie num den = some n) :
    i.holds n num den = true ∧
      (n = i.below num den ∧ (i.holds (n + 1) num den = true →
          2 * i.remainder num den ≤ num * i.denominator) ∨
        n = i.below num den + 1 ∧ (i.holds (i.below num den) num den = true →
          num * i.denominator ≤ 2 * i.remainder num den)) := by
  unfold pick at h
  dsimp only at h
  rw [← below, ← remainder] at h
  split at h
  next hbelow habove =>
    split_ifs at h with hlt hgt
    · obtain rfl := Option.some.inj h
      exact ⟨hbelow, .inl ⟨rfl, fun _ ↦ hlt.le⟩⟩
    · obtain rfl := Option.some.inj h
      exact ⟨habove, .inr ⟨rfl, fun _ ↦ hgt.le⟩⟩
    · obtain rfl := Option.some.inj h
      have hchoose : tie.choose (i.below num den) = i.below num den ∨
          tie.choose (i.below num den) = i.below num den + 1 := by
        cases tie <;> unfold Tie.choose <;> grind
      rcases hchoose with hc | hc <;> rw [hc]
      · exact ⟨hbelow, .inl ⟨rfl, fun _ ↦ by omega⟩⟩
      · exact ⟨habove, .inr ⟨rfl, fun _ ↦ by omega⟩⟩
  next hbelow habove =>
    obtain rfl := Option.some.inj h
    exact ⟨hbelow, .inl ⟨rfl, fun h ↦ by simp [habove] at h⟩⟩
  next hbelow habove =>
    obtain rfl := Option.some.inj h
    exact ⟨habove, .inr ⟨rfl, fun h ↦ by simp [hbelow] at h⟩⟩
  next => cases h

/-- What is picked is the nearest multiple where the unit is at most the width of the interval. -/
theorem abs_sub_multiple_le (hi : i.Symmetric radius) (hnum : 0 < num)
    (hunit : 1 ≤ 2 * i.reach radius num den) (h : i.pick tie num den = some n) :
    |(n : ℚ) - i.multiple num den| ≤ 1 / 2 := by
  have hpos : (0 : ℚ) < (num * i.denominator : Nat) := by
    exact_mod_cast Nat.mul_pos hnum hi.denominator_pos
  have hlo := below_le den hi hnum
  have hhi := lt_below_add_one den hi hnum
  have hsub := multiple_sub_below den hi hnum
  have hnot : ∀ k : Nat, i.holds k num den = false → 1 / 2 ≤ |(k : ℚ) - i.multiple num den| := by
    intro k hk
    rw [← Bool.not_eq_true, holds_iff hi hnum] at hk
    split_ifs at hk <;> linarith
  obtain ⟨-, ⟨rfl, hnear⟩ | ⟨rfl, hnear⟩⟩ := pick_eq_some h
  · rw [abs_sub_comm, abs_of_nonneg (by linarith)]
    cases habove : i.holds (i.below num den + 1) num den with
    | true =>
      have hle : ((2 * i.remainder num den : Nat) : ℚ) ≤ (num * i.denominator : Nat) :=
        by exact_mod_cast hnear habove
      rw [hsub, div_le_iff₀ hpos]
      push_cast at hle ⊢
      linarith
    | false =>
      have := hnot _ habove
      push_cast at this
      rw [abs_of_nonneg (by linarith)] at this
      linarith
  · push_cast
    rw [abs_of_nonneg (by linarith)]
    cases hbelow : i.holds (i.below num den) num den with
    | true =>
      have hle : ((num * i.denominator : Nat) : ℚ) ≤ (2 * i.remainder num den : Nat) :=
        by exact_mod_cast hnear hbelow
      have : 1 / 2 ≤ i.multiple num den - i.below num den := by
        rw [hsub, le_div_iff₀ hpos]
        push_cast at hle ⊢
        linarith
      linarith
    | false =>
      have := hnot _ hbelow
      rw [abs_sub_comm, abs_of_nonneg (by linarith)] at this
      linarith

/-- Of the multiples of a unit around the value one is picked where the unit is less than the width
of the interval. -/
theorem exists_pick (tie : Tie) (hi : i.Symmetric radius) (hnum : 0 < num)
    (hunit : 1 < 2 * i.reach radius num den) : ∃ n, i.pick tie num den = some n := by
  have hlo := below_le den hi hnum
  have hhi := lt_below_add_one den hi hnum
  have hheld : ∀ k : Nat, |(k : ℚ) - i.multiple num den| ≤ 1 / 2 → i.holds k num den = true := by
    intro k hk
    rw [holds_iff hi hnum]
    split_ifs <;> linarith
  have hone : i.holds (i.below num den) num den = true ∨
      i.holds (i.below num den + 1) num den = true := by
    rcases le_total (i.multiple num den) (i.below num den + 1 / 2) with h | h
    · refine .inl (hheld _ ?_)
      rw [abs_sub_comm, abs_of_nonneg (by linarith)]
      linarith
    · refine .inr (hheld _ ?_)
      push_cast
      rw [abs_of_nonneg (by linarith)]
      linarith
  rw [← Option.isSome_iff_exists]
  unfold pick
  dsimp only
  rw [← below, ← remainder]
  cases hbelow : i.holds (i.below num den) num den <;>
    cases habove : i.holds (i.below num den + 1) num den
  case false.false => simp [hbelow, habove] at hone
  case true.true =>
    dsimp only
    split_ifs <;> rfl
  all_goals rfl

/-! ### Powers of ten as units -/

/-- The pick of a multiple of `10 ^ u`. -/
def pickUnit (i : Interval) (tie : Tie) (u : ℤ) : Option Nat :=
  i.pick tie (powNum 10 u) (powDen 10 u)

/-! ### The interval of a number -/

variable {fmt : Format} {m : Nat} {q u : ℤ}

theorem powNum_div_denominator (fmt : Format) (m : Nat) (q : ℤ) :
    (powNum 2 (q - 2) / (Interval.of fmt m q).denominator : ℚ) = 2 ^ q / 4 := by
  calc (powNum 2 (q - 2) / (Interval.of fmt m q).denominator : ℚ)
      = powNum 2 (q - 2) / powDen 2 (q - 2) := rfl
    _ = (2 : ℚ) ^ (q - 2) := powNum_div_powDen 2 (q - 2)
    _ = 2 ^ q / 4 := by rw [zpow_sub₀ two_ne_zero]; norm_num

/-- Unless the significand has the leading bit alone, both ends are half a unit away. -/
theorem symmetric_of (hpos : 0 < m) (hm : m ≠ 2 ^ fmt.fractionBits ∨ q = fmt.minExponent) :
    (Interval.of fmt m q).Symmetric (2 * powNum 2 (q - 2)) := by
  have hbelow : ¬(m = 2 ^ fmt.fractionBits ∧ q ≠ fmt.minExponent) := by tauto
  have hlow : (Interval.of fmt m q).low = (4 * m - 2) * powNum 2 (q - 2) := by
    simp only [Interval.of, if_neg hbelow]
    rfl
  refine ⟨?_, ?_, powDen_pos two_pos (q - 2)⟩
  · calc (Interval.of fmt m q).low + 2 * powNum 2 (q - 2)
        = (4 * m - 2 + 2) * powNum 2 (q - 2) := by rw [hlow, Nat.add_mul]
      _ = 4 * m * powNum 2 (q - 2) := by rw [Nat.sub_add_cancel (by omega)]
  · exact (Nat.add_mul ..).symm

/-- The number in decimal units. -/
theorem multiple_of (fmt : Format) (m : Nat) (q u : ℤ) :
    (Interval.of fmt m q).multiple (powNum 10 u) (powDen 10 u) = m * 2 ^ q / 10 ^ u := by
  have hvalue : (Interval.of fmt m q).value = 4 * m * powNum 2 (q - 2) := rfl
  calc (Interval.of fmt m q).multiple (powNum 10 u) (powDen 10 u)
      = 4 * m * (powNum 2 (q - 2) / (Interval.of fmt m q).denominator) *
          (powDen 10 u / powNum 10 u) := by
        rw [multiple, hvalue]
        push_cast
        ring
    _ = m * 2 ^ q / 10 ^ u := by
        rw [powNum_div_denominator, powDen_div_powNum]
        push_cast
        ring

/-- The radius of its interval in decimal units. -/
theorem reach_of (fmt : Format) (m : Nat) (q u : ℤ) :
    (Interval.of fmt m q).reach (2 * powNum 2 (q - 2)) (powNum 10 u) (powDen 10 u) =
      2 ^ q / 2 / 10 ^ u := by
  calc (Interval.of fmt m q).reach (2 * powNum 2 (q - 2)) (powNum 10 u) (powDen 10 u)
      = 2 * (powNum 2 (q - 2) / (Interval.of fmt m q).denominator) *
          (powDen 10 u / powNum 10 u) := by
        rw [reach]
        push_cast
        ring
    _ = 2 ^ q / 2 / 10 ^ u := by
        rw [powNum_div_denominator, powDen_div_powNum]
        push_cast
        ring

/-- The width of the interval as a multiple of a power of ten. -/
theorem two_mul_reach_of (fmt : Format) (m : Nat) (q u : ℤ) :
    2 * (Interval.of fmt m q).reach (2 * powNum 2 (q - 2)) (powNum 10 u) (powDen 10 u) =
      2 ^ q / 10 ^ u := by
  rw [reach_of, ← mul_div_assoc, mul_div_cancel₀ _ two_ne_zero]

/-- The distance of a multiple from the number. -/
theorem abs_sub_multiple (n m : Nat) (q u : ℤ) :
    |(n : ℚ) - m * 2 ^ q / 10 ^ u| = |(n * 10 ^ u : ℚ) - m * 2 ^ q| / 10 ^ u := by
  have hten : (0 : ℚ) < 10 ^ u := by positivity
  rw [← abs_of_pos hten, ← abs_div, abs_of_pos hten, sub_div, mul_div_cancel_right₀ _ hten.ne']

/-- A multiple that is picked rounds to the number. -/
theorem rounds_of_pickUnit (hpos : 0 < m) (hm : m ≠ 2 ^ fmt.fractionBits ∨ q = fmt.minExponent)
    (h : (Interval.of fmt m q).pickUnit tie u = some n) :
    Format.Rounds m q (n * 10 ^ u) := by
  have hten : (0 : ℚ) < 10 ^ u := by positivity
  have hheld := (pick_eq_some h).1
  rw [holds_iff (symmetric_of hpos hm) (powNum_pos (by decide) u), multiple_of, reach_of] at hheld
  rw [abs_sub_multiple, div_le_div_iff_of_pos_right hten, div_lt_div_iff_of_pos_right hten]
    at hheld
  split_ifs at hheld with hclosed
  · exact ⟨hheld, fun _ ↦ of_decide_eq_true hclosed⟩
  · exact ⟨hheld.le, fun h ↦ absurd h hheld.ne⟩

/-- Zero is not picked. -/
theorem pickUnit_ne_zero (tie : Tie) (hpos : 0 < m)
    (hm : m ≠ 2 ^ fmt.fractionBits ∨ q = fmt.minExponent) (u : ℤ) :
    (Interval.of fmt m q).pickUnit tie u ≠ some 0 := by
  intro h
  have hle := (rounds_of_pickUnit hpos hm h).abs_sub_le
  have hunit : (0 : ℚ) < 2 ^ q := by positivity
  have hone : (1 : ℚ) ≤ m := by exact_mod_cast hpos
  rw [Nat.cast_zero, zero_mul, zero_sub, abs_neg, abs_of_nonneg (by positivity)] at hle
  nlinarith

/-- A unit less than the width of the interval has a multiple that is picked. -/
theorem pickUnit_ne_none (tie : Tie) (hpos : 0 < m)
    (hm : m ≠ 2 ^ fmt.fractionBits ∨ q = fmt.minExponent) (hu : (10 : ℚ) ^ u < 2 ^ q) :
    (Interval.of fmt m q).pickUnit tie u ≠ none := by
  have hwidth : (1 : ℚ) < 2 ^ q / 10 ^ u := (one_lt_div (by positivity)).2 hu
  rw [← two_mul_reach_of fmt m] at hwidth
  obtain ⟨n, hn⟩ := exists_pick tie (symmetric_of hpos hm) (powNum_pos (by decide) u) hwidth
  rw [pickUnit, hn]
  exact Option.some_ne_none n

/-- A multiple of such a unit that is picked is the nearest one. -/
theorem abs_sub_le_of_pickUnit (hpos : 0 < m)
    (hm : m ≠ 2 ^ fmt.fractionBits ∨ q = fmt.minExponent) (hu : (10 : ℚ) ^ u < 2 ^ q)
    (h : (Interval.of fmt m q).pickUnit tie u = some n) :
    |(n * 10 ^ u : ℚ) - m * 2 ^ q| ≤ 10 ^ u / 2 := by
  have hten : (0 : ℚ) < 10 ^ u := by positivity
  have hwidth : (1 : ℚ) ≤ 2 ^ q / 10 ^ u := (one_le_div hten).2 hu.le
  rw [← two_mul_reach_of fmt m] at hwidth
  have hnear := abs_sub_multiple_le (symmetric_of hpos hm) (powNum_pos (by decide) u) hwidth h
  rw [multiple_of, abs_sub_multiple, div_le_iff₀ hten] at hnear
  linarith

end Interval

/-! ### The search -/

/-- The search ends at the first unit of which a multiple is picked, at the latest at one where it
is known that there is one. -/
theorem search_eq {i : Interval} {tie : Tie} {last : ℤ} (hzero : ∀ u, i.pickUnit tie u ≠ some 0)
    (hlast : i.pickUnit tie last ≠ none) (fuel : Nat) (unit : ℤ) (hle : last ≤ unit)
    (hlt : unit < last + fuel) :
    ∃ n u, i.pickUnit tie u = some n ∧ last ≤ u ∧ u ≤ unit ∧
      search i tie unit fuel = .ofMultiple n u := by
  induction fuel generalizing unit with
  | zero => omega
  | succ fuel ih =>
    unfold search
    dsimp only
    rw [← powNum, ← powDen, ← Interval.pickUnit]
    cases hpick : i.pickUnit tie unit with
    | some n =>
      have hn : n ≠ 0 := fun h ↦ hzero unit (h ▸ hpick)
      exact ⟨n, unit, hpick, hle, le_rfl, if_neg hn⟩
    | none =>
      have hne : unit ≠ last := fun h ↦ hlast (h ▸ hpick)
      obtain ⟨n, u, hn, hlo, hhi, hsearch⟩ := ih (unit - 1) (by omega) (by omega)
      exact ⟨n, u, hn, hlo, by omega, hsearch⟩

/-! ### Where the search starts -/

variable {num den fuel : Nat} {k j : ℤ}

/-- One step of the walk: it stops at the first power of ten above the ratio. -/
theorem pointFrom_succ (num : Nat) (hden : 0 < den) (fuel : Nat) (k : ℤ) :
    pointFrom num den (fuel + 1) k =
      if (num / den : ℚ) < 10 ^ k then k else pointFrom num den fuel (k + 1) := by
  have hden' : (0 : ℚ) < den := by exact_mod_cast hden
  have hbelow : ((num / den : ℚ) < 10 ^ k) ↔
      (if k ≥ 0 then decide (num < den * 10 ^ k.toNat)
        else decide (num * 10 ^ (-k).toNat < den)) = true := by
    rw [div_lt_iff₀ hden']
    split_ifs with hk
    · rw [zpow_of_nonneg 10 hk, decide_eq_true_iff, mul_comm]
      norm_cast
    · rw [zpow_of_neg 10 (not_le.1 hk), decide_eq_true_iff, div_mul_eq_mul_div, one_mul,
        lt_div_iff₀ (by positivity)]
      norm_cast
  rw [pointFrom]
  exact if_congr hbelow.symm rfl rfl

/-- The walk does not stop below a power of ten that the ratio reaches. -/
theorem le_pointFrom (hden : 0 < den) (hj : (10 : ℚ) ^ (j - 1) ≤ num / den) (hle : j ≤ k + fuel) :
    j ≤ pointFrom num den fuel k := by
  induction fuel generalizing k with
  | zero => simpa [pointFrom] using hle
  | succ fuel ih =>
    rw [pointFrom_succ num hden]
    split_ifs with hbelow
    · have := (zpow_lt_zpow_iff_right₀ (by norm_num : (1 : ℚ) < 10)).1 (hj.trans_lt hbelow)
      omega
    · exact ih (by omega)

/-- The walk stops at a power of ten above the ratio. -/
theorem pointFrom_le (hden : 0 < den) (hj : (num / den : ℚ) < 10 ^ j) (hle : k ≤ j) :
    pointFrom num den fuel k ≤ j := by
  induction fuel generalizing k with
  | zero => simpa [pointFrom] using hle
  | succ fuel ih =>
    rw [pointFrom_succ num hden]
    split_ifs with hbelow
    · exact hle
    · have : k ≠ j := by
        rintro rfl
        exact hbelow hj
      exact ih (by omega)

end LoraConcentrator.Decimal
