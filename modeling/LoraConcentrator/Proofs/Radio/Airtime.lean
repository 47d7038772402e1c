import Mathlib.Algebra.Order.Floor.Div
import Mathlib.Data.Rat.Floor
import Mathlib.Tactic.Linarith
import Mathlib.Tactic.Positivity
import LoraConcentrator.Radio.Airtime

/-!
# The exact time on air

What the formulas of a time on air say over the rational numbers. All three give a number of data
symbols in which the only rounding is upwards, of a quotient of natural numbers; so the number is a
natural number (`TxPacket.symbolCount`), and how it grows with the packet is a matter of natural
numbers alone (`TxPacket.Within.symbolCount_le`). The one place where a formula changes with the
size of the packet is where the first eight symbols of a packet without header are full, and there
both its sides are at eight.

Main statement: `TxPacket.exactMs_grows_and_fits`: a longer payload, a longer preamble or a check
never shortens a packet, and the time on air is positive, fits 32 bits and is rounded to the next
whole millisecond.
-/

namespace LoraConcentrator

/-! ### The rational arithmetic -/

namespace Arithmetic

theorem less_iff {x y : ℚ} : less x y = true ↔ x < y := by
  rw [← not_le]
  show _ ↔ ¬ (less x y = false)
  rw [Bool.not_eq_false]

theorem ceil_eq (x : ℚ) : ceil x = (⌈x⌉ : ℚ) := by
  show ((Rat.ceil x : ℤ) : ℚ) = _
  rw [Rat.ceil_eq_neg_floor_neg]
  rfl

/-- Rounding up a quotient is dividing up. -/
theorem ceil_natCast_div (a : ℕ) {b : ℕ} (hb : 0 < b) :
    ceil ((a : ℚ) / b) = ((a ⌈/⌉ b : ℕ) : ℚ) := by
  have hceil : ⌈(a : ℚ) / b⌉₊ = a ⌈/⌉ b := eq_of_forall_ge_iff fun c ↦ by
    rw [Nat.ceil_le, div_le_iff₀ (Nat.cast_pos.2 hb), ceilDiv_le_iff_le_mul hb, mul_comm (c : ℚ)]
    exact mod_cast Iff.rfl
  rw [ceil_eq, ← hceil, natCast_ceil_eq_intCast_ceil (by positivity)]

theorem max_eq (x y : ℚ) : toMax.max x y = max x y := by
  show (if less x y then y else x) = max x y
  simp only [less_iff, max_def_lt]

theorem min_eq (x y : ℚ) : toMin.min x y = min x y := by
  show (if less x y then x else y) = min x y
  simp only [less_iff, min_def_lt]

/-- A difference cut at zero is that of natural numbers. -/
theorem max_sub_zero (a b : ℕ) : toMax.max ((a : ℚ) - b) 0 = ((a - b : ℕ) : ℚ) := by
  rw [max_eq]
  rcases le_total b a with h | h
  · rw [Nat.cast_sub h, max_eq_left (sub_nonneg.2 (Nat.cast_le.2 h))]
  · rw [Nat.sub_eq_zero_of_le h, max_eq_right (sub_nonpos.2 (Nat.cast_le.2 h)), Nat.cast_zero]

/-- A difference that is negative by less than the divisor is rounded up to zero. -/
theorem ceil_sub_div {a b d : ℕ} (hd : 0 < d) (h : b < a + d) :
    ceil (((a : ℚ) - b) / d) = (((a - b) ⌈/⌉ d : ℕ) : ℚ) := by
  rcases le_total b a with hab | hab
  · rw [← Nat.cast_sub hab, ceil_natCast_div _ hd]
  · have hd' : (0 : ℚ) < d := Nat.cast_pos.2 hd
    have habove : -1 < ((a : ℚ) - b) / d := by
      have hcast : (b : ℚ) < a + d := mod_cast h
      rw [lt_div_iff₀ hd']
      linarith
    have hbelow : ((a : ℚ) - b) / d ≤ 0 :=
      div_nonpos_of_nonpos_of_nonneg (sub_nonpos.2 (Nat.cast_le.2 hab)) hd'.le
    rw [ceil_eq, Int.ceil_eq_zero_iff.2 ⟨habove, hbelow⟩, Nat.sub_eq_zero_of_le hab, zero_ceilDiv]
    rfl

end Arithmetic

/-! ### Symbols and rates -/

namespace SpreadingFactor

theorem dataBits_pos (sf : SpreadingFactor) : 0 < sf.dataBits := by
  cases sf <;> decide

theorem four_dataBits_pos (sf : SpreadingFactor) : 0 < 4 * sf.dataBits :=
  Nat.mul_pos (by decide) sf.dataBits_pos

theorem startBits_pos (sf : SpreadingFactor) : 0 < sf.startBits := by
  cases sf <;> decide

/-- The first symbols carry no more than the others. -/
theorem startBits_le_dataBits (sf : SpreadingFactor) : sf.startBits ≤ sf.dataBits := by
  cases sf <;> decide

end SpreadingFactor

/-- The bits that four bits are sent as. -/
def CodingRate.codeLength (cr : CodingRate) : ℕ :=
  if cr.isLong then (if cr.number = 7 then cr.number + 1 else cr.number) else 4 + cr.number

theorem CodingRate.codeLength_pos (cr : CodingRate) : 0 < cr.codeLength := by
  cases cr <;> decide

theorem CodingRate.codeLength_le (cr : CodingRate) : cr.codeLength ≤ 8 := by
  cases cr <;> decide

namespace TxPacket

open Arithmetic (less ceil toMax toMin less_iff ceil_natCast_div ceil_sub_div max_sub_zero)

/-! ### Data symbols -/

/-- `headerRoom` as a natural number: the header always fits its symbols. -/
def headerBits (p : TxPacket) : ℕ :=
  p.spreading.bits * 4 + (if p.spreading.isFine then 8 else 0) - 8 - (if p.noHeader then 0 else 20)

/-- `headedRoom` as a natural number. -/
def headedBits (p : TxPacket) : ℕ :=
  if p.headerBits < 8 * p.checkedSize then min p.headerBits (8 * p.payload.size) else p.headerBits

/-- `codedBits` as a natural number. -/
def codedLength (p : TxPacket) : ℕ := 2 * p.checkedSize * p.coding.codeLength

/-- `startSymbols` as a natural number. -/
def startCount (p : TxPacket) : ℕ := p.codedLength ⌈/⌉ p.spreading.startBits

/-- `blockSymbols` as a natural number. -/
def blockCount (p : TxPacket) : ℕ :=
  8 + (8 * p.checkedSize - p.headerBits) ⌈/⌉ (4 * p.spreading.dataBits) * (p.coding.number + 4)

/-- `headedSymbols` as a natural number. -/
def headedCount (p : TxPacket) : ℕ :=
  8 + ((8 * p.checkedSize - p.headedBits) * p.coding.codeLength) ⌈/⌉ (4 * p.spreading.dataBits)

/-- `bareSymbols` as a natural number. -/
def bareCount (p : TxPacket) : ℕ :=
  if p.startCount < 8 then p.startCount
  else 8 + (p.codedLength - 8 * p.spreading.startBits) ⌈/⌉ p.spreading.dataBits

/-- `dataSymbols` as a natural number. -/
def symbolCount (p : TxPacket) : ℕ :=
  if ¬ p.coding.isLong then p.blockCount
  else if ¬ p.noHeader then p.headedCount
  else p.bareCount

variable (p : TxPacket)

/-- The bits that are checked are those of the payload and its checksum. -/
theorem checkedBits_eq : checkedBits ℚ p = ((8 * p.checkedSize : ℕ) : ℚ) := by
  rw [Nat.cast_mul]
  rfl

theorem headerRoom_eq : headerRoom ℚ p = (p.headerBits : ℚ) := by
  show (p.spreading.bits : ℚ) * (4 : ℕ) + ((if p.spreading.isFine then 8 else 0 : ℕ) : ℚ) -
    (8 : ℕ) - ((if p.noHeader then 0 else 20 : ℕ) : ℚ) = _
  rw [headerBits]
  cases p.spreading <;> cases p.noHeader <;> norm_num [SpreadingFactor.bits, SpreadingFactor.isFine]

theorem codeShare_eq : codeShare ℚ p = (4 : ℕ) / (p.coding.codeLength : ℚ) := by
  show (if p.coding.isLong then (4 : ℕ) / ((if p.coding.number = 7 then _ else _ : ℕ) : ℚ)
    else (4 : ℕ) / ((4 + p.coding.number : ℕ) : ℚ)) = _
  rw [CodingRate.codeLength]
  split <;> rfl

/-- The bits that are coded are counted by natural numbers. -/
theorem codedBits_eq : codedBits ℚ p = (p.codedLength : ℚ) := by
  have hpos : (p.coding.codeLength : ℚ) ≠ 0 := Nat.cast_ne_zero.2 p.coding.codeLength_pos.ne'
  show checkedBits ℚ p / codeShare ℚ p = _
  rw [checkedBits_eq, codeShare_eq, codedLength]
  push_cast
  field_simp
  ring

/-- The symbols of the first block are counted by natural numbers. -/
theorem startSymbols_eq : startSymbols ℚ p = (p.startCount : ℚ) := by
  show ceil (codedBits ℚ p / p.spreading.startBits) = _
  rw [codedBits_eq, ceil_natCast_div _ p.spreading.startBits_pos, startCount]

theorem headedRoom_eq : headedRoom ℚ p = (p.headedBits : ℚ) := by
  show (if less (headerRoom ℚ p) (checkedBits ℚ p) then
    toMin.min (headerRoom ℚ p) ((8 : ℕ) * (p.payload.size : ℚ)) else headerRoom ℚ p) = _
  rw [checkedBits_eq, headerRoom_eq, Arithmetic.min_eq, ← Nat.cast_mul, headedBits]
  simp only [less_iff, Nat.cast_lt, Nat.cast_ite, Nat.cast_min]

theorem blockSymbols_eq : blockSymbols ℚ p = (p.blockCount : ℚ) := by
  show (8 : ℕ) + ceil (toMax.max (checkedBits ℚ p - headerRoom ℚ p) 0 / (4 : ℕ) /
    p.spreading.dataBits) * ((p.coding.number + 4 : ℕ) : ℚ) = _
  rw [checkedBits_eq, headerRoom_eq, max_sub_zero, div_div, ← Nat.cast_mul,
    ceil_natCast_div _ p.spreading.four_dataBits_pos, ← Nat.cast_mul, ← Nat.cast_add, blockCount]

/-- The symbols of a packet with a header are counted by natural numbers. -/
theorem headedSymbols_eq : headedSymbols ℚ p = (p.headedCount : ℚ) := by
  show (8 : ℕ) + ceil (toMax.max (checkedBits ℚ p - headedRoom ℚ p) 0 / codeShare ℚ p /
    p.spreading.dataBits) = _
  rw [headedRoom_eq, checkedBits_eq, codeShare_eq, max_sub_zero, div_div_eq_mul_div, div_div,
    ← Nat.cast_mul, ← Nat.cast_mul, ceil_natCast_div _ p.spreading.four_dataBits_pos,
    ← Nat.cast_add, headedCount]

/-- A first block that is full holds the bits of more than seven of its symbols. -/
theorem lt_codedLength_add (h : ¬ p.startCount < 8) :
    8 * p.spreading.startBits < p.codedLength + p.spreading.startBits := by
  have hfull : ¬ p.startCount ≤ 7 := fun hle ↦ h (Nat.lt_succ_of_le hle)
  rw [startCount, ceilDiv_le_iff_le_mul p.spreading.startBits_pos] at hfull
  omega

/-- The symbols of a packet without a header are counted by natural numbers. -/
theorem bareSymbols_eq : bareSymbols ℚ p = (p.bareCount : ℚ) := by
  show (if less (startSymbols ℚ p) (8 : ℕ) then startSymbols ℚ p
    else (8 : ℕ) + ceil ((codedBits ℚ p - p.spreading.startBits * (8 : ℕ)) /
      p.spreading.dataBits)) = _
  rw [startSymbols_eq, codedBits_eq, ← Nat.cast_mul, mul_comm p.spreading.startBits]
  simp only [less_iff, Nat.cast_lt, bareCount]
  split
  next => rfl
  next h =>
    have hlack := (p.lt_codedLength_add h).trans_le
      (Nat.add_le_add_left p.spreading.startBits_le_dataBits _)
    rw [ceil_sub_div p.spreading.dataBits_pos hlack, Nat.cast_add]

/-- All data symbols are counted by natural numbers. -/
theorem dataSymbols_eq : dataSymbols ℚ p = (p.symbolCount : ℚ) := by
  rw [dataSymbols, symbolCount, blockSymbols_eq, headedSymbols_eq, bareSymbols_eq]
  simp only [apply_ite (Nat.cast : ℕ → ℚ)]

/-! ### Milliseconds -/

theorem preambleSymbols_eq :
    preambleSymbols ℚ p =
      p.preamble.toNat + 17 / 4 + ((if p.spreading.isFine then 2 else 0 : ℕ) : ℚ) :=
  rfl

theorem preambleSymbols_pos : 0 < preambleSymbols ℚ p := by
  rw [preambleSymbols_eq]
  positivity

/-- A preamble has fewer symbols than sixteen bits count and seven more. -/
theorem preambleSymbols_lt : preambleSymbols ℚ p < 2 ^ 16 + 7 := by
  have hpreamble : (p.preamble.toNat : ℚ) < 2 ^ 16 := mod_cast p.preamble.toNat_lt
  have hfine : ((if p.spreading.isFine then 2 else 0 : ℕ) : ℚ) ≤ 2 := by
    split <;> norm_num
  rw [preambleSymbols_eq]
  linarith

theorem symbolPeriod_pos : 0 < symbolPeriod ℚ p := by
  show (0 : ℚ) < ((2 ^ p.spreading.bits : ℕ) : ℚ) / p.bandwidth.symbolRate
  have hrate : 0 < p.bandwidth.symbolRate := by cases p.bandwidth <;> decide
  positivity

/-- A symbol takes no longer than 4096 milliseconds. -/
theorem symbolPeriod_le : symbolPeriod ℚ p ≤ 2 ^ 12 := by
  show ((2 ^ p.spreading.bits : ℕ) : ℚ) / p.bandwidth.symbolRate ≤ 2 ^ 12
  have hrate : 1 ≤ p.bandwidth.symbolRate := by cases p.bandwidth <;> decide
  have hbits : p.spreading.bits ≤ 12 := by cases p.spreading <;> decide
  have hpower : 2 ^ p.spreading.bits ≤ 2 ^ 12 := Nat.pow_le_pow_right (by decide) hbits
  calc ((2 ^ p.spreading.bits : ℕ) : ℚ) / p.bandwidth.symbolRate
      ≤ ((2 ^ p.spreading.bits : ℕ) : ℚ) := div_le_self (Nat.cast_nonneg _) (mod_cast hrate)
    _ ≤ 2 ^ 12 := mod_cast hpower

/-- The time on air is that of the preamble and the data symbols. -/
theorem exactMs_eq :
    exactMs ℚ p = (preambleSymbols ℚ p + p.symbolCount) * symbolPeriod ℚ p := by
  rw [← dataSymbols_eq]
  rfl

/-! ### Longer packets -/

/-- Packets that are sent alike, the second with no shorter payload and preamble, and with a check
if the first has one. -/
structure Within (p q : TxPacket) : Prop where
  bandwidth : p.bandwidth = q.bandwidth
  spreading : p.spreading = q.spreading
  coding : p.coding = q.coding
  noHeader : p.noHeader = q.noHeader
  size : p.payload.size ≤ q.payload.size
  noCrc : q.noCrc → p.noCrc
  preamble : p.preamble ≤ q.preamble

/-- The first packet has at most as many data symbols as the second, and it is on air for at most as
long. -/
def NoLonger (p q : TxPacket) : Prop :=
  dataSymbols ℚ p ≤ dataSymbols ℚ q ∧ exactMs ℚ p ≤ exactMs ℚ q

theorem ceilDiv_le_ceilDiv {a b d : ℕ} (hd : 0 < d) (h : a ≤ b) : a ⌈/⌉ d ≤ b ⌈/⌉ d :=
  (gc_mul_ceilDiv hd).monotone_l h

namespace Within

variable {p q : TxPacket} (h : Within p q)

include h

/-- The whole grows by no less than the payload. -/
theorem check_le : p.checkedSize + q.payload.size ≤ q.checkedSize + p.payload.size := by
  have hcheck : (if p.noCrc then 0 else 2) ≤ if q.noCrc then 0 else 2 := by
    split_ifs with hp hq hq
    · exact le_rfl
    · exact Nat.zero_le _
    · exact absurd (h.noCrc hq) hp
    · exact le_rfl
  rw [checkedSize, checkedSize]
  omega

theorem checkedSize_le : p.checkedSize ≤ q.checkedSize := by
  have hsize := h.size
  have hcheck := h.check_le
  omega

theorem headerBits_eq : p.headerBits = q.headerBits := by
  rw [headerBits, headerBits, h.spreading, h.noHeader]

/-- The header takes more bits of a longer packet, but never more than the packet has more. -/
theorem uncovered_le :
    8 * p.checkedSize - p.headedBits ≤ 8 * q.checkedSize - q.headedBits := by
  have hchecked := h.checkedSize_le
  have hcheck := h.check_le
  rw [headedBits, headedBits, h.headerBits_eq]
  split_ifs <;> omega

/-- A longer packet has no fewer bits to code. -/
theorem codedLength_le : p.codedLength ≤ q.codedLength := by
  rw [codedLength, codedLength, h.coding]
  exact Nat.mul_le_mul_right _ (Nat.mul_le_mul_left _ h.checkedSize_le)

theorem startCount_le : p.startCount ≤ q.startCount := by
  rw [startCount, startCount, h.spreading]
  exact ceilDiv_le_ceilDiv q.spreading.startBits_pos h.codedLength_le

theorem blockCount_le : p.blockCount ≤ q.blockCount := by
  rw [blockCount, blockCount, h.spreading, h.coding, h.headerBits_eq]
  refine Nat.add_le_add_left (Nat.mul_le_mul_right _ ?_) 8
  refine ceilDiv_le_ceilDiv q.spreading.four_dataBits_pos ?_
  exact Nat.sub_le_sub_right (Nat.mul_le_mul_left _ h.checkedSize_le) _

theorem headedCount_le : p.headedCount ≤ q.headedCount := by
  rw [headedCount, headedCount, h.spreading, h.coding]
  refine Nat.add_le_add_left (ceilDiv_le_ceilDiv q.spreading.four_dataBits_pos ?_) 8
  exact Nat.mul_le_mul_right _ h.uncovered_le

theorem bareCount_le : p.bareCount ≤ q.bareCount := by
  have hstart := h.startCount_le
  rw [bareCount, bareCount, h.spreading]
  split_ifs with hp hq hq
  · exact hstart
  · exact hp.le.trans (Nat.le_add_right _ _)
  · exact absurd (hstart.trans_lt hq) hp
  · refine Nat.add_le_add_left (ceilDiv_le_ceilDiv q.spreading.dataBits_pos ?_) 8
    exact Nat.sub_le_sub_right h.codedLength_le _

/-- A longer packet has no fewer symbols. -/
theorem symbolCount_le : p.symbolCount ≤ q.symbolCount := by
  rw [symbolCount, symbolCount, h.coding, h.noHeader]
  split_ifs
  exacts [h.bareCount_le, h.headedCount_le, h.blockCount_le]

theorem preambleSymbols_le : preambleSymbols ℚ p ≤ preambleSymbols ℚ q := by
  have hpreamble : (p.preamble.toNat : ℚ) ≤ q.preamble.toNat :=
    Nat.cast_le.2 (UInt16.le_iff_toNat_le.1 h.preamble)
  rw [preambleSymbols_eq, preambleSymbols_eq, h.spreading]
  linarith

theorem symbolPeriod_eq : symbolPeriod ℚ p = symbolPeriod ℚ q := by
  rw [symbolPeriod, symbolPeriod, h.spreading, h.bandwidth]

/-- A longer packet is no shorter on air. -/
theorem exactMs_le : exactMs ℚ p ≤ exactMs ℚ q := by
  have hcount : (p.symbolCount : ℚ) ≤ q.symbolCount := Nat.cast_le.2 h.symbolCount_le
  rw [exactMs_eq, exactMs_eq, h.symbolPeriod_eq]
  exact mul_le_mul_of_nonneg_right (add_le_add h.preambleSymbols_le hcount)
    q.symbolPeriod_pos.le

theorem noLonger : NoLonger p q := by
  refine ⟨?_, h.exactMs_le⟩
  rw [dataSymbols_eq, dataSymbols_eq]
  exact Nat.cast_le.2 h.symbolCount_le

end Within

/-! ### Range and rounding -/

/-- A payload with its checksum is shorter than 258 bytes. -/
theorem checkedSize_lt : p.checkedSize < 258 := by
  have hsize : p.payload.size ≤ 255 := p.payload.length_le
  rw [checkedSize]
  split <;> omega

theorem ceilDiv_le_self (a : ℕ) {d : ℕ} (hd : 0 < d) : a ⌈/⌉ d ≤ a := by
  rw [ceilDiv_le_iff_le_mul hd]
  exact Nat.le_mul_of_pos_left a hd

theorem blockCount_lt : p.blockCount < 2 ^ 15 := by
  have hchecked := p.checkedSize_lt
  have hnumber : p.coding.number ≤ 7 := by cases p.coding <;> decide
  have hblocks : (8 * p.checkedSize - p.headerBits) ⌈/⌉ (4 * p.spreading.dataBits) ≤ 2056 :=
    (ceilDiv_le_self _ p.spreading.four_dataBits_pos).trans (by omega)
  calc p.blockCount ≤ 8 + 2056 * 11 :=
        Nat.add_le_add_left (Nat.mul_le_mul hblocks (Nat.add_le_add_right hnumber 4)) 8
    _ < 2 ^ 15 := by decide

theorem headedCount_lt : p.headedCount < 2 ^ 15 := by
  have hchecked := p.checkedSize_lt
  have hleft : 8 * p.checkedSize - p.headedBits ≤ 2056 := by omega
  calc p.headedCount ≤ 8 + (8 * p.checkedSize - p.headedBits) * p.coding.codeLength :=
        Nat.add_le_add_left (ceilDiv_le_self _ p.spreading.four_dataBits_pos) 8
    _ ≤ 8 + 2056 * 8 := Nat.add_le_add_left (Nat.mul_le_mul hleft p.coding.codeLength_le) 8
    _ < 2 ^ 15 := by decide

theorem bareCount_lt : p.bareCount < 2 ^ 15 := by
  have hchecked := p.checkedSize_lt
  have hcoded : p.codedLength ≤ 514 * 8 :=
    Nat.mul_le_mul (by omega) p.coding.codeLength_le
  rw [bareCount]
  split_ifs with hstart
  · exact hstart.trans (by decide)
  · calc 8 + (p.codedLength - 8 * p.spreading.startBits) ⌈/⌉ p.spreading.dataBits
        ≤ 8 + p.codedLength := Nat.add_le_add_left
          ((ceilDiv_le_self _ p.spreading.dataBits_pos).trans (Nat.sub_le _ _)) 8
      _ < 2 ^ 15 := by omega

/-- A packet has fewer symbols than fifteen bits count. -/
theorem symbolCount_lt : p.symbolCount < 2 ^ 15 := by
  rw [symbolCount]
  split_ifs
  exacts [p.bareCount_lt, p.headedCount_lt, p.blockCount_lt]

/-- A long rate without header, and not even the first eight symbols are full. -/
def EndsEarly : Prop :=
  p.coding.isLong ∧ p.noHeader ∧ startSymbols ℚ p < 8

/-- A packet has its first eight symbols unless it ends early. -/
theorem eight_le_symbolCount_iff : 8 ≤ p.symbolCount ↔ ¬ p.EndsEarly := by
  have hstart : startSymbols ℚ p < 8 ↔ p.startCount < 8 := by
    rw [startSymbols_eq]
    exact Nat.cast_lt
  rw [symbolCount, EndsEarly, hstart, blockCount, headedCount, bareCount]
  split_ifs with hlong hheader hearly
  · exact iff_of_false (Nat.not_le.2 hearly) (not_not.2 ⟨hlong, hheader, hearly⟩)
  · exact iff_of_true (Nat.le_add_right _ _) fun h ↦ hearly h.2.2
  · exact iff_of_true (Nat.le_add_right _ _) fun h ↦ hheader h.2.1
  · exact iff_of_true (Nat.le_add_right _ _) fun h ↦ hlong h.1

theorem exactMs_pos : 0 < exactMs ℚ p := by
  rw [exactMs_eq]
  exact mul_pos (add_pos_of_pos_of_nonneg p.preambleSymbols_pos (Nat.cast_nonneg _))
    p.symbolPeriod_pos

/-- A packet is on air for fewer milliseconds than 31 bits count. -/
theorem exactMs_lt : exactMs ℚ p < 2 ^ 31 := by
  have hpreamble := p.preambleSymbols_lt
  have hcount : (p.symbolCount : ℚ) < 2 ^ 15 := mod_cast p.symbolCount_lt
  have hnonneg : 0 ≤ preambleSymbols ℚ p + p.symbolCount :=
    add_nonneg p.preambleSymbols_pos.le (Nat.cast_nonneg _)
  calc exactMs ℚ p = (preambleSymbols ℚ p + p.symbolCount) * symbolPeriod ℚ p := p.exactMs_eq
    _ ≤ (preambleSymbols ℚ p + p.symbolCount) * 2 ^ 12 :=
        mul_le_mul_of_nonneg_left p.symbolPeriod_le hnonneg
    _ < 2 ^ 31 := by linarith

/-- The whole milliseconds are the exact ones rounded up. -/
theorem toNat_wholeMs : ((wholeMs ℚ p).toNat : ℤ) = ⌈exactMs ℚ p⌉ := by
  have hpos : 0 ≤ ⌈exactMs ℚ p⌉ := Int.ceil_nonneg p.exactMs_pos.le
  have hle : ⌈exactMs ℚ p⌉ ≤ 2 ^ 31 := Int.ceil_le.2 (by exact_mod_cast p.exactMs_lt.le)
  have hfloor : (ceil (exactMs ℚ p)).floor = ⌈exactMs ℚ p⌉ := by
    rw [Arithmetic.ceil_eq]
    exact Rat.floor_intCast _
  have hmin : min ⌈exactMs ℚ p⌉.toNat (UInt32.size - 1) = ⌈exactMs ℚ p⌉.toNat :=
    Nat.min_eq_left (by rw [UInt32.size]; omega)
  show ((UInt32.ofNat (min (ceil (exactMs ℚ p)).floor.toNat (UInt32.size - 1))).toNat : ℤ) = _
  rw [hfloor, hmin, UInt32.toNat_ofNat_of_lt' (by rw [UInt32.size]; omega),
    Int.toNat_of_nonneg hpos]

/-- The whole milliseconds are the least number of them that the packet fits in. -/
theorem isLeast_wholeMs : IsLeast {n : ℤ | exactMs ℚ p ≤ n} (wholeMs ℚ p).toNat := by
  rw [toNat_wholeMs]
  exact ⟨Int.le_ceil (exactMs ℚ p), fun _ hn ↦ Int.ceil_le.2 hn⟩

/-- **The time on air over the rational numbers.** No packet gets shorter, in data symbols or in
milliseconds, by a payload that is no shorter, by a longer preamble or by a check. The number of
data symbols is a natural number, and less than eight only where a packet without header ends early.
The milliseconds are positive and fit 32 bits, and the whole ones are the next ones. -/
theorem exactMs_grows_and_fits :
    (∀ payload : Payload, p.payload.size ≤ payload.size → NoLonger p { p with payload }) ∧
    (∀ preamble, p.preamble ≤ preamble → NoLonger p { p with preamble }) ∧
    NoLonger { p with noCrc := true } { p with noCrc := false } ∧
    (∃ n : ℕ, dataSymbols ℚ p = n ∧ (8 ≤ n ↔ ¬ p.EndsEarly)) ∧
    0 < exactMs ℚ p ∧ exactMs ℚ p < 2 ^ 32 ∧
    IsLeast {n : ℤ | exactMs ℚ p ≤ n} (wholeMs ℚ p).toNat := by
  refine ⟨fun payload hsize ↦ ?_, fun preamble hpreamble ↦ ?_, ?_, ?_, p.exactMs_pos, ?_,
    p.isLeast_wholeMs⟩
  · exact Within.noLonger ⟨rfl, rfl, rfl, rfl, hsize, id, UInt16.le_refl _⟩
  · exact Within.noLonger ⟨rfl, rfl, rfl, rfl, le_rfl, id, hpreamble⟩
  · exact Within.noLonger ⟨rfl, rfl, rfl, rfl, le_rfl, fun _ ↦ rfl, UInt16.le_refl _⟩
  · exact ⟨p.symbolCount, p.dataSymbols_eq, p.eight_le_symbolCount_iff⟩
  · exact p.exactMs_lt.trans (by norm_num)

/-- Neither thirty-two bytes nor a longer preamble make a packet shorter, and these bytes take 360
milliseconds. -/
theorem exactMs_grows_and_fits_sample :
    NoLonger {} { payload := ⟨List.replicate 32 0, by decide⟩ } ∧
    NoLonger {} { preamble := 12 } ∧
    wholeMs ℚ { payload := ⟨List.replicate 32 0, by decide⟩ } = 360 :=
  ⟨(exactMs_grows_and_fits {}).1 _ (by decide), (exactMs_grows_and_fits {}).2.1 _ (by decide),
    by decide +kernel⟩

/-- A byte at the slowest spreading is sent in two symbols. -/
example : EndsEarly
    { coding := .long46, noHeader := true, noCrc := true, payload := ⟨[0], by decide⟩ } :=
  ⟨rfl, rfl, by decide +kernel⟩

end TxPacket

end LoraConcentrator
