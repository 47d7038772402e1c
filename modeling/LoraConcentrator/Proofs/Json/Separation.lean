import LoraConcentrator.Proofs.Decimal.Approach
import LoraConcentrator.Proofs.Decimal.Single
import LoraConcentrator.Proofs.Json.Scaling

/-!
# How near digits come to the ends of an interval

Digits are scaled with an error when they are read, so digits that round to a number of thirty-two
bits might be read as its neighbour, if they are nearer to an end of the interval than the error
is. The ends are odd multiples of half the binary unit and the digits are multiples of the decimal
unit, so how near they come depends on the exponent alone but for finitely many pairs of multiples,
and for every exponent these pairs are computed and tested (`Settled`): a pair that is too near
either stands for a number that is an end, where every power of ten is exact, or it is too large, or
both numbers at that end are read again (`Rereads`).
-/

namespace LoraConcentrator.Json

open Binary Binary.Format Decimal

variable {m : Nat} {q : ℤ}

/-- The significand and the power of ten that digits are read as: a whole number that is written
without exponent has its zeros and one place behind the point. -/
def spelled (d : Digits) : Nat × ℤ :=
  if 0 ≤ d.unit ∧ d.point - 1 ≤ 12 then (d.significand * 10 ^ (d.unit.toNat + 1), -1)
  else (d.significand, d.unit)

/-- The significand and the power of ten that the digits of `m * 2 ^ q` are read as. -/
def respelled (m : Nat) (q : ℤ) : Nat × ℤ := spelled (shortest single .even m q)

/-- The pattern of sixty-four bits that the digits of `m * 2 ^ q` are read as. -/
def rereadPattern (m : Nat) (q : ℤ) : Nat := scaledPattern (respelled m q).1 (respelled m q).2

/-- The digits of `m * 2 ^ q` are read as that number: their significand is taken whole, the power
of ten is a single one, and the scaled significand is neither too large nor rounded to another
number. -/
structure Rereads (m : Nat) (q : ℤ) : Prop where
  significand_lt : (respelled m q).1 < 2 ^ 53
  exponent_le : (respelled m q).2.natAbs ≤ 50
  finite : rereadPattern m q < double.infinity
  convert_eq : single.convert double (rereadPattern m q) = single.pattern m q

instance : Decidable (Rereads m q) :=
  decidable_of_iff
    ((respelled m q).1 < 2 ^ 53 ∧ (respelled m q).2.natAbs ≤ 50 ∧
      rereadPattern m q < double.infinity ∧
      single.convert double (rereadPattern m q) = single.pattern m q)
    ⟨fun ⟨h₁, h₂, h₃, h₄⟩ ↦ ⟨h₁, h₂, h₃, h₄⟩, fun ⟨h₁, h₂, h₃, h₄⟩ ↦ ⟨h₁, h₂, h₃, h₄⟩⟩

/-- The least significand with a leading bit is read again with every exponent. -/
theorem rereads_least : ∀ k : Nat, k < 254 → Rereads (2 ^ 23) ((k : ℤ) - 149) := by
  decide +kernel

/-! ### Multiples near the ends of an interval -/

/-- How often the decimal unit of `2 ^ q` is half the binary unit, as a ratio. -/
def unitRatio (q : ℤ) : Nat × Nat :=
  (powNum 10 (decimalUnit q) * powDen 2 (q - 1), powDen 10 (decimalUnit q) * powNum 2 (q - 1))

/-- What multiples of the two units have to be apart, to tell them in spite of rounding errors. -/
def separation (q : ℤ) : Nat := (unitRatio q).2 / 2 ^ 26 + 1

/-- The number of decimal units in the largest numbers. -/
def unitLimit (q : ℤ) : Nat := 2 ^ 25 * (unitRatio q).2 / (unitRatio q).1

/-- The approach to the ratio of the units. -/
def approach (q : ℤ) : Approach :=
  (Approach.units (unitRatio q).1 (unitRatio q).2).refine (unitLimit q) 1500

/-- A pair of multiples and its repetitions do no harm: they are far enough apart, or equal where
powers of ten are exact, or the one end that they are near to is that of two numbers that are read
again. -/
def Harmless (q : ℤ) (pair : Nat × Nat) (gap : Nat) : Prop :=
  separation q ≤ gap ∨
    gap = 0 ∧ -20 ≤ decimalUnit q ∧ decimalUnit q ≤ 14 ∨
    2 ^ 25 ≤ 3 * pair.2 ∧
      (pair.2 % 2 = 0 ∨ ∀ m ∈ [pair.2 / 2, pair.2 / 2 + 1], 2 ^ 23 ≤ m ∨ q = -149 → Rereads m q)

instance {pair : Nat × Nat} {gap : Nat} : Decidable (Harmless q pair gap) :=
  inferInstanceAs (Decidable (_ ∨ _ ∨ _))

/-- What is checked of an exponent. -/
structure Settled (q : ℤ) : Prop where
  exhausts : (approach q).Exhausts (unitLimit q)
  separation_le : separation q ≤ (approach q).aboveGap + (approach q).belowGap
  above : Harmless q (approach q).above (approach q).aboveGap
  below : Harmless q (approach q).below (approach q).belowGap
  unit_le : powNum 2 q * powDen 10 (decimalUnit q) ≤ powNum 10 (decimalUnit q) * powDen 2 q
  lt_unit : powNum 10 (decimalUnit q - 1) * powDen 2 q * 2 ^ 26 +
      powNum 2 q * powDen 10 (decimalUnit q - 1) ≤
    powNum 2 q * powDen 10 (decimalUnit q - 1) * 2 ^ 26

instance : Decidable (Settled q) :=
  decidable_of_iff
    ((approach q).Exhausts (unitLimit q) ∧
      separation q ≤ (approach q).aboveGap + (approach q).belowGap ∧
      Harmless q (approach q).above (approach q).aboveGap ∧
      Harmless q (approach q).below (approach q).belowGap ∧
      powNum 2 q * powDen 10 (decimalUnit q) ≤ powNum 10 (decimalUnit q) * powDen 2 q ∧
      powNum 10 (decimalUnit q - 1) * powDen 2 q * 2 ^ 26 +
          powNum 2 q * powDen 10 (decimalUnit q - 1) ≤
        powNum 2 q * powDen 10 (decimalUnit q - 1) * 2 ^ 26)
    ⟨fun ⟨h₁, h₂, h₃, h₄, h₅, h₆⟩ ↦ ⟨h₁, h₂, h₃, h₄, h₅, h₆⟩,
      fun ⟨h₁, h₂, h₃, h₄, h₅, h₆⟩ ↦ ⟨h₁, h₂, h₃, h₄, h₅, h₆⟩⟩

/-- Every exponent of thirty-two bits is settled. -/
theorem settled : ∀ k : Nat, k < 254 → Settled ((k : ℤ) - 149) := by
  decide +kernel

theorem settled_of_canonical (h : single.Canonical m q) : Settled q := by
  obtain ⟨-, hlo, hhi, -⟩ := bounds_of_canonical h
  have := settled (q + 149).toNat (by omega)
  rwa [Int.toNat_of_nonneg (by omega), add_sub_cancel_right] at this

end LoraConcentrator.Json
