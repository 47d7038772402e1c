import LoraConcentrator.Proofs.Json.Numerals
import LoraConcentrator.Proofs.Json.Reread

/-!
# Reading written numbers of thirty-two bits

The digits of a number are laid out with zeros or with an exponent; either way they are one numeral
(`numeralOf`), of which the significand and the power of ten are known (`spelled_eq`). So a finite
number is read as itself. What is not finite is written as `null` and refused
(`reads_writtenSingle`).
-/

namespace LoraConcentrator

/-- Whether the pattern stands for a number, and for no infinity. -/
def Binary.Single.isFinite (x : Binary.Single) : Bool :=
  match x.datum with
  | .finite .. => true
  | _ => false

namespace Json

open Binary Binary.Format Decimal

variable {d : Digits} {m : Nat} {q : ℤ} {rest : List Char} {x : Single}

/-! ### Digits as a numeral -/

/-- The numeral of digits as numbers are laid out in settings. -/
def numeralOf (negative : Bool) (d : Digits) : Numeral :=
  if -6 ≤ d.point - 1 ∧ d.point - 1 ≤ 12 then
    if d.point ≤ 0 then
      ⟨negative, ['0'], some (List.replicate (-d.point).toNat '0' ++ d.chars), none⟩
    else if d.point ≥ d.digits.length then
      ⟨negative, d.chars ++ List.replicate (d.point - d.digits.length).toNat '0', some ['0'], none⟩
    else ⟨negative, d.chars.take d.point.toNat, some (d.chars.drop d.point.toNat), none⟩
  else
    ⟨negative, d.chars.take 1, if (d.digits.drop 1).isEmpty then none else some (d.chars.drop 1),
      some (d.point - 1)⟩

theorem toList_characters (ds : List Nat) : (characters ds).toList = ds.map Nat.digitChar :=
  String.toList_ofList

theorem toList_signText (negative : Bool) :
    (signText negative).toList = Numeral.signChars negative := by
  cases negative <;> rfl

/-- The text of digits is that of the numeral. -/
theorem toList_digitsText (negative : Bool) (d : Digits) :
    (signText negative ++ settingsNumber.digitsText d).toList = (numeralOf negative d).chars := by
  rw [String.toList_append, toList_signText]
  unfold Layout.digitsText numeralOf settingsNumber
  dsimp only
  split_ifs with hplain hbelow habove hempty
  · rw [plainText, if_pos hbelow]
    simp [Numeral.chars, Numeral.fractionChars, Numeral.exponentChars, toList_characters,
      Digits.chars, Nat.digitChar]
  · rw [plainText, if_neg hbelow]
    dsimp only
    rw [if_pos habove]
    simp [Numeral.chars, Numeral.fractionChars, Numeral.exponentChars, toList_characters,
      Digits.chars, Nat.digitChar]
  · rw [plainText, if_neg hbelow]
    dsimp only
    rw [if_neg habove]
    simp [Numeral.chars, Numeral.fractionChars, Numeral.exponentChars, toList_characters,
      Digits.chars]
  all_goals
    have hexponent : ("e" ++ (if d.point - 1 < 0 then "-" else "+") ++
        toString (d.point - 1).natAbs).toList = Numeral.exponentChars (some (d.point - 1)) := by
      rw [String.toList_append, Nat.toString_eq_ofList_toDigits, String.toList_ofList,
        Numeral.exponentChars]
      split_ifs <;> rfl
    simp only [String.toList_append, List.append_assoc] at hexponent
    simp only [exponentText, String.toList_append, toList_characters, List.append_assoc, hexponent,
      Numeral.chars, Digits.chars, List.map_take]
  · rw [if_pos hempty]
    rfl
  · rw [if_neg hempty, String.toList_append, toList_characters, List.map_drop]
    rfl

/-- A part of proper digits before the point. -/
theorem proper_take (hd : d.Proper) (negative : Bool) {k : Nat} (hk : 0 < k)
    {fraction : Option (List Char)} (e : Option ℤ) (hne : ∀ ds ∈ fraction, ds ≠ [])
    (hdigit : ∀ ds ∈ fraction, ∀ c ∈ ds, c.isDigit = true) :
    (⟨negative, d.chars.take k, fraction, e⟩ : Numeral).Proper where
  whole_ne_nil := by simp [hd.ne_nil, hk.ne']
  whole_isDigit c hc := hd.isDigit c (List.mem_of_mem_take hc)
  whole_head h := by
    rw [List.head?_take, if_neg hk.ne'] at h
    exact absurd h hd.head
  fraction_ne_nil := hne
  fraction_isDigit := hdigit

/-- The numeral of proper digits is proper. -/
theorem proper_numeralOf (hd : d.Proper) (negative : Bool) : (numeralOf negative d).Proper := by
  have hzeros : ∀ (n : Nat), ∀ c ∈ List.replicate n '0', c.isDigit = true := by
    intro n c hc
    rw [List.eq_of_mem_replicate hc]
    rfl
  have hlength := d.length_chars
  unfold numeralOf
  split_ifs with hplain hbelow habove hempty
  · refine ⟨by simp, by simp, fun _ ↦ le_rfl, ?_, ?_⟩
    · rintro _ ⟨⟩
      simp [hd.ne_nil]
    · rintro _ ⟨⟩ c hc
      exact (List.mem_append.1 hc).elim (hzeros _ c) (hd.isDigit c)
  · refine ⟨by simp [hd.ne_nil], ?_, ?_, by simp, by simp⟩
    · exact fun c hc ↦ (List.mem_append.1 hc).elim (hd.isDigit c) (hzeros _ c)
    · rw [List.head?_append_of_ne_nil _ hd.ne_nil]
      exact fun h ↦ absurd h hd.head
  · refine proper_take hd negative (by omega) none ?_ ?_
    · rintro _ ⟨⟩
      rw [Ne, List.drop_eq_nil_iff]
      omega
    · rintro _ ⟨⟩ c hc
      exact hd.isDigit c (List.mem_of_mem_drop hc)
  · exact proper_take hd negative one_pos _ (by simp) (by simp)
  · refine proper_take hd negative one_pos _ ?_ ?_
    · rintro _ ⟨⟩
      rw [List.isEmpty_iff, List.drop_eq_nil_iff] at hempty
      rw [Ne, List.drop_eq_nil_iff]
      omega
    · rintro _ ⟨⟩ c hc
      exact hd.isDigit c (List.mem_of_mem_drop hc)

/-- What the numeral is read as. -/
theorem spelled_eq (hd : d.Proper) (negative : Bool) :
    spelled d = ((numeralOf negative d).significand, (numeralOf negative d).unit) := by
  have hlength := d.length_chars
  have hpos : 0 < d.chars.length := List.length_pos_iff.2 hd.ne_nil
  have hunit : d.unit = d.point - d.digits.length := rfl
  unfold numeralOf
  split_ifs with hplain hbelow habove hempty
  · rw [spelled, if_neg (by omega), Numeral.significand, Numeral.unit]
    refine Prod.ext ?_ ?_
    · simp [Digits.significand, Nat.ofDigitChars_append, Nat.ofDigitChars_cons,
        Nat.ofDigitChars_replicate_zero]
    · simp
      omega
  · obtain ⟨t, ht⟩ := Int.eq_ofNat_of_zero_le (by omega : 0 ≤ d.unit)
    rw [spelled, if_pos (by omega), Numeral.significand, Numeral.unit]
    refine Prod.ext ?_ ?_
    · simp only [Option.getD_some, Nat.ofDigitChars_append, Nat.ofDigitChars_replicate_zero,
        Nat.ofDigitChars_cons, Nat.ofDigitChars_nil, Digits.significand, ← hunit, ht,
        Int.toNat_natCast]
      rw [Nat.pow_succ, Nat.mul_comm, Nat.mul_assoc, Nat.mul_left_comm]
      rfl
    · simp
  · rw [spelled, if_neg (by omega), Numeral.significand, Numeral.unit]
    refine Prod.ext ?_ ?_
    · simp [Digits.significand]
    · simp
      omega
  · have hone : d.digits.length = 1 := by
      rw [List.isEmpty_iff, List.drop_eq_nil_iff] at hempty
      omega
    rw [spelled, if_neg (by omega), Numeral.significand, Numeral.unit]
    refine Prod.ext ?_ ?_
    · simp only [Option.getD_none, List.append_nil, Digits.significand]
      rw [List.take_of_length_le (by omega)]
    · simp
      omega
  · rw [spelled, if_neg (by omega), Numeral.significand, Numeral.unit]
    refine Prod.ext ?_ ?_
    · simp only [Option.getD_some, List.take_append_drop, Digits.significand]
    · simp
      omega

/-- Digits are written with their sign, and with a fraction or an exponent. -/
theorem numeralOf_parts (negative : Bool) (d : Digits) :
    (numeralOf negative d).negative = negative ∧
      ((numeralOf negative d).fraction ≠ none ∨ (numeralOf negative d).exponent ≠ none) := by
  unfold numeralOf
  split_ifs <;> simp

/-! ### Numbers of thirty-two bits -/

/-- A numeral is read as the number of thirty-two bits that its scaled significand becomes. -/
theorem reads_single_of_scaled {numeral : Numeral} {bits : Nat} (h : numeral.Proper)
    (hlt : numeral.significand < 2 ^ 64)
    (hpart : numeral.fraction ≠ none ∨ numeral.exponent ≠ none)
    (hscaled : scaled numeral.significand numeral.unit = some bits) (hbits : bits < double.infinity)
    (hx : x.bits.toNat = single.withSign numeral.negative (single.convert double bits)) :
    Reader.Reads Reader.single numeral.chars (.ok x) := by
  intro rest hrest
  have hvalue := Numeral.value_of_scaled hlt hpart hscaled
  have hread := Reader.run_numberFor_append h hvalue hrest "f32"
  rw [Reader.single, Reader.map_of_ok Number.single hread, Number.single, Single.ofDouble,
    convert_withSign hbits, ← hx, Single.ofPattern, UInt32.ofNat_toNat]
  rfl

/-- Zero is read back with its sign. -/
theorem reads_zero {negative : Bool} (hx : x.bits.toNat = single.withSign negative 0) :
    Reader.Reads Reader.single (signText negative ++ "0.0").toList (.ok x) := by
  have hchars : (signText negative ++ "0.0").toList =
      (⟨negative, ['0'], some ['0'], none⟩ : Numeral).chars := by
    rw [String.toList_append, toList_signText]
    rfl
  have hscaled : scaled 0 (-1) = some (scaledPattern 0 (-1)) :=
    scaled_eq (by decide) (by decide) (by decide +kernel)
  have hproper : (⟨negative, ['0'], some ['0'], none⟩ : Numeral).Proper :=
    ⟨by simp, by simp, by simp, by simp, by simp⟩
  rw [hchars]
  refine reads_single_of_scaled hproper ?_ (.inl (by simp)) hscaled (by decide +kernel) hx
  exact (by decide : 0 < 2 ^ 64)

/-- Digits of a number that is read again are proper. -/
theorem Rereads.proper (h : Rereads m q) (hpos : 0 < m) :
    (shortest single .even m q).Proper := by
  refine (Digits.proper_search _ _ _ _).resolve_right fun hnone ↦ ?_
  have hzero : single.convert double (scaledPattern 0 (-1)) = 0 := by decide +kernel
  have hpattern := h.convert_eq
  rw [rereadPattern, respelled, shortest, hnone] at hpattern
  have : single.pattern m q = 0 := hpattern.symm.trans hzero
  unfold pattern at this
  omega

/-- The text of a finite number is read as that number. -/
theorem reads_writtenSingle_of_finite {negative : Bool} (hx : x.datum = .finite negative m q) :
    Reader.Reads Reader.single (writtenSingle x).toList (.ok x) := by
  obtain ⟨hcanonical, hbits⟩ := canonical_of_decode x.bits.toNat_lt hx
  have htext : writtenSingle x = signText negative ++
      (if m = 0 then "0.0" else settingsNumber.digitsText (shortest single .even m q)) := by
    rw [writtenSingle, hx]
    dsimp only
    rw [Layout.text, show single.decode x.bits.toNat = .finite negative m q from hx]
    rfl
  rw [htext]
  rcases Nat.eq_zero_or_pos m with rfl | hpos
  · have hq : q = single.minExponent := by
      refine hcanonical.leading.resolve_left ?_
      exact Nat.not_le_of_lt (Nat.two_pow_pos _)
    rw [if_pos rfl]
    refine reads_zero ?_
    rw [hbits, pattern, hq, sub_self]
    rfl
  · have hrereads := rereads hcanonical hpos
    have hspelled := (spelled_eq (hrereads.proper hpos) negative).symm
    have hsignificand := congrArg Prod.fst hspelled
    have hunit := congrArg Prod.snd hspelled
    dsimp only at hsignificand hunit
    obtain ⟨hnegative, hpart⟩ := numeralOf_parts negative (shortest single .even m q)
    have hexponent := hrereads.exponent_le
    have hscaled := scaled_eq (by omega) (by omega) hrereads.finite
    rw [if_neg hpos.ne', toList_digitsText]
    refine reads_single_of_scaled (proper_numeralOf (hrereads.proper hpos) negative) ?_ hpart ?_
      hrereads.finite ?_
    · rw [hsignificand]
      exact hrereads.significand_lt.trans (by decide)
    · rw [hsignificand, hunit]
      exact hscaled
    · rw [hnegative, hrereads.convert_eq]
      exact hbits

/-- The problem that nothing stands where a number of thirty-two bits is expected. -/
def noNumber : Problem := .misfit (.wrongType .null "f32")

/-- What is not finite is written as nothing, which is no number. -/
theorem reads_writtenSingle_of_not_finite (hx : ∀ negative m q, x.datum ≠ .finite negative m q) :
    Reader.Reads Reader.single (writtenSingle x).toList
      (.error noNumber) := by
  have htext : (writtenSingle x).toList = 'n' :: "ull".toList := by
    cases hdatum : x.datum with
    | finite negative m q => exact absurd hdatum (hx negative m q)
    | nan _ _ | infinite _ =>
      rw [writtenSingle, hdatum]
      dsimp only
      rfl
  intro rest _
  rw [htext, List.cons_append]
  have hpeek := Reader.run_peek_cons (c := 'n') (by decide) ("ull".toList ++ rest)
  have hfound : Reader.found.run ('n' :: ("ull".toList ++ rest)) = .ok .null rest := by
    rw [Reader.found, Reader.bind_of_ok hpeek]
    exact Reader.bind_of_ok (Reader.run_word_append "null".toList rest)
  refine ⟨rest, Reader.map_of_error Number.single ?_⟩
  rw [Reader.numberFor, Reader.bind_of_ok hpeek]
  exact Reader.bind_of_ok hfound

/-- **A number that was written is read as itself if it is finite and refused otherwise.** -/
theorem reads_writtenSingle (x : Single) :
    Reader.Reads Reader.single (writtenSingle x).toList
      (if x.isFinite then .ok x else .error noNumber) := by
  unfold Single.isFinite
  cases hx : x.datum with
  | finite negative m q => exact reads_writtenSingle_of_finite hx
  | nan negative fraction =>
    exact reads_writtenSingle_of_not_finite fun _ _ _ h ↦ Datum.noConfusion (hx.symm.trans h)
  | infinite negative =>
    exact reads_writtenSingle_of_not_finite fun _ _ _ h ↦ Datum.noConfusion (hx.symm.trans h)

end Json

end LoraConcentrator
