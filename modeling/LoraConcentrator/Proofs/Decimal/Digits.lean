import LoraConcentrator.Decimal.Shortest
import Mathlib.Algebra.Order.Field.Power
import Mathlib.Data.Rat.Cast.Order
import Mathlib.Tactic.NormNum
import Mathlib.Tactic.Positivity
import Mathlib.Tactic.Ring

/-!
# Decimal digits

The digits of a multiple of a power of ten are its decimal digits without the zeros that end them,
so their number is the multiple (`Digits.value_ofMultiple`) and they can stand in a numeral
(`Digits.Proper`).
-/

namespace LoraConcentrator.Decimal

namespace Digits

/-- The characters of the digits. -/
def chars (d : Digits) : List Char := d.digits.map Nat.digitChar

/-- The digits as one number. -/
def significand (d : Digits) : Nat := Nat.ofDigitChars 10 d.chars 0

/-- The power of ten of the last digit. -/
def unit (d : Digits) : ℤ := d.point - d.digits.length

/-- The number of the digits. -/
def value (d : Digits) : ℚ := d.significand * 10 ^ d.unit

end Digits

/-- The digits of a positive number do not start with zero. -/
theorem head_toDigits_ne {n : Nat} (h : 0 < n) : (Nat.toDigits 10 n).head? ≠ some '0' := by
  induction n using Nat.strong_induction_on with
  | _ n ih =>
    rw [Nat.toDigits_eq_if (by decide)]
    split_ifs with hlt
    · simpa using by omega
    · rw [List.head?_append_of_ne_nil _ Nat.toDigits_ne_nil]
      exact ih (n / 10) (by omega) (by omega)

theorem digitChar_toNat_sub {c : Char} (h : c.isDigit) :
    Nat.digitChar (c.toNat - '0'.toNat) = c := by
  have hc : 48 ≤ c.toNat ∧ c.toNat ≤ 57 := by
    simpa [Char.isDigit, UInt32.le_iff_toNat_le] using h
  refine Char.toNat_inj.1 ?_
  rw [Nat.toNat_digitChar_of_lt_ten (by simp; omega)]
  simp
  omega

/-- The digits of a number are written as in the core library. -/
theorem map_digitChar_digitsOf (n : Nat) : (digitsOf n).map Nat.digitChar = Nat.toDigits 10 n := by
  rw [digitsOf, List.map_map]
  refine (List.map_congr_left fun c hc ↦ ?_).trans (List.map_id _)
  exact digitChar_toNat_sub (Nat.isDigit_of_mem_toDigits (by decide) (by decide) hc)

/-- What is dropped are zeros. -/
theorem exists_dropTrailingZeros_append (ds : List Nat) :
    ∃ t, ds = dropTrailingZeros ds ++ List.replicate t 0 := by
  have hzeros : ∀ k ∈ (ds.reverse.takeWhile (· == 0)).reverse, k = 0 := by
    intro k hk
    simpa using List.all_eq_true.1 List.all_takeWhile k (List.mem_reverse.1 hk)
  refine ⟨(ds.reverse.takeWhile (· == 0)).reverse.length, ?_⟩
  rw [← List.eq_replicate_of_mem hzeros, dropTrailingZeros, ← List.reverse_append,
    List.takeWhile_append_dropWhile, List.reverse_reverse]

namespace Digits

/-- Digits as a decimal number has them: they are below ten, there are some and the first is not
zero. -/
structure Proper (d : Digits) : Prop where
  isDigit : ∀ c ∈ d.chars, c.isDigit = true
  ne_nil : d.chars ≠ []
  head : d.chars.head? ≠ some '0'

variable {n : Nat} {u : ℤ}

theorem length_chars (d : Digits) : d.chars.length = d.digits.length := List.length_map _

/-- The digits of a multiple are its decimal digits without the zeros that end them. -/
theorem exists_toDigits_eq (n : Nat) (u : ℤ) :
    ∃ t, Nat.toDigits 10 n = (ofMultiple n u).chars ++ List.replicate t '0' ∧
      (ofMultiple n u).unit = u + t := by
  obtain ⟨t, ht⟩ := exists_dropTrailingZeros_append (digitsOf n)
  refine ⟨t, ?_, ?_⟩
  · rw [← map_digitChar_digitsOf, chars, ofMultiple, ht, List.map_append, List.map_replicate, ← ht]
    rfl
  · have hlength := congrArg List.length ht
    rw [List.length_append, List.length_replicate] at hlength
    simp only [unit, ofMultiple]
    omega

/-- The digits of a positive multiple are proper, and their number is the multiple. -/
theorem proper_ofMultiple (hn : 0 < n) : (ofMultiple n u).Proper := by
  obtain ⟨t, ht, -⟩ := exists_toDigits_eq n u
  have hne : (ofMultiple n u).chars ≠ [] := by
    intro hnil
    have hvalue := congrArg (Nat.ofDigitChars 10 · 0) ht
    simp [hnil, Nat.ofDigitChars_replicate_zero] at hvalue
    omega
  refine ⟨fun c hc ↦ ?_, hne, ?_⟩
  · exact Nat.isDigit_of_mem_toDigits (b := 10) (n := n) (by decide) (by decide)
      (ht ▸ List.mem_append_left _ hc)
  · have := head_toDigits_ne hn
    rwa [ht, List.head?_append_of_ne_nil _ hne] at this

/-- Only zeros at the end are left out. -/
theorem exists_eq_pow_mul (n : Nat) (u : ℤ) :
    ∃ t : Nat, n = 10 ^ t * (ofMultiple n u).significand ∧ (ofMultiple n u).unit = u + t := by
  obtain ⟨t, ht, hunit⟩ := exists_toDigits_eq n u
  refine ⟨t, ?_, hunit⟩
  calc n = Nat.ofDigitChars 10 (Nat.toDigits 10 n) 0 := Nat.ofDigitChars_ten_toDigits.symm
    _ = _ := by rw [ht, Nat.ofDigitChars_append, Nat.ofDigitChars_replicate_zero, significand]

/-- The digits of a multiple of a power of ten have its value. -/
theorem value_ofMultiple (n : Nat) (u : ℤ) : (ofMultiple n u).value = n * 10 ^ u := by
  obtain ⟨t, hn, hunit⟩ := exists_eq_pow_mul n u
  rw [value, hunit, zpow_add₀ (by norm_num), zpow_natCast]
  conv_rhs => rw [hn]
  push_cast
  ring

/-- The digits make no larger number than the multiple. -/
theorem significand_ofMultiple_le (n : Nat) (u : ℤ) : (ofMultiple n u).significand ≤ n := by
  obtain ⟨t, hn, -⟩ := exists_eq_pow_mul n u
  exact (Nat.le_mul_of_pos_left _ (by positivity)).trans_eq hn.symm

theorem le_unit_ofMultiple (n : Nat) (u : ℤ) : u ≤ (ofMultiple n u).unit := by
  obtain ⟨t, -, hunit⟩ := exists_eq_pow_mul n u
  omega

theorem significand_pos (hn : 0 < n) (u : ℤ) : 0 < (ofMultiple n u).significand := by
  obtain ⟨t, ht, -⟩ := exists_eq_pow_mul n u
  exact Nat.pos_of_ne_zero fun hzero ↦ by simp [hzero] at ht; omega

/-- The point stands after as many digits as the value has. -/
theorem value_lt_pow_point (n : Nat) (u : ℤ) :
    (ofMultiple n u).value < 10 ^ (ofMultiple n u).point := by
  have hlt : n < 10 ^ (Nat.toDigits 10 n).length :=
    (Nat.length_toDigits_le_iff (by decide) Nat.length_toDigits_pos).1 le_rfl
  have hlength : (ofMultiple n u).point = (Nat.toDigits 10 n).length + u := by
    rw [← map_digitChar_digitsOf, List.length_map]
    exact add_comm ..
  have hten : (0 : ℚ) < 10 ^ u := by positivity
  rw [value_ofMultiple, hlength, zpow_add₀ (by norm_num), zpow_natCast]
  gcongr
  exact_mod_cast hlt

/-- A search ends with proper digits, or with none. -/
theorem proper_search (i : Interval) (tie : Tie) (fuel : Nat) (u : ℤ) :
    (search i tie u fuel).Proper ∨ search i tie u fuel = ⟨[], 0⟩ := by
  induction fuel generalizing u with
  | zero => exact .inr rfl
  | succ fuel ih =>
    rw [search]
    split
    · split_ifs with hn
      · exact ih (u - 1)
      · exact .inl (proper_ofMultiple (Nat.pos_of_ne_zero hn))
    · exact ih (u - 1)

end Digits

end LoraConcentrator.Decimal
