import LoraConcentrator.Proofs.Decimal.Digits
import LoraConcentrator.Proofs.Json.Reading

/-!
# Reading written numbers

A numeral whose digits are in order (`Numeral.Proper`) is read from its characters as it is
(`run_numeral_append`). Its value is an integer when it has neither fraction nor exponent, and a
scaled significand otherwise.
-/

namespace LoraConcentrator.Json

variable {n : Nat} {ds rest : List Char} {atEnd : Problem} {numeral : Numeral}

/-- The number of some digits is that of the core library. -/
theorem decimal_eq (ds : List Char) : decimal ds = Nat.ofDigitChars 10 ds 0 := by
  simp only [decimal, Nat.ofDigitChars, digitValue, Nat.mul_comm]

/-! ### Numerals as text -/

namespace Numeral

/-- The characters of a sign. -/
def signChars (negative : Bool) : List Char := if negative then ['-'] else []

/-- The characters of a fraction. -/
def fractionChars : Option (List Char) → List Char
  | none => []
  | some ds => '.' :: ds

/-- The characters of an exponent, of which the sign is always written. -/
def exponentChars : Option ℤ → List Char
  | none => []
  | some e => 'e' :: (if e < 0 then '-' else '+') :: Nat.toDigits 10 e.natAbs

/-- The characters of a numeral. -/
def chars (numeral : Numeral) : List Char :=
  signChars numeral.negative ++ (numeral.whole ++
    (fractionChars numeral.fraction ++ exponentChars numeral.exponent))

/-- There are digits before the point, and after it if there is one; a zero before the point stands
alone. -/
structure Proper (numeral : Numeral) : Prop where
  whole_ne_nil : numeral.whole ≠ []
  whole_isDigit : ∀ c ∈ numeral.whole, c.isDigit = true
  whole_head : numeral.whole.head? = some '0' → numeral.whole.length ≤ 1
  fraction_ne_nil : ∀ ds ∈ numeral.fraction, ds ≠ []
  fraction_isDigit : ∀ ds ∈ numeral.fraction, ∀ c ∈ ds, c.isDigit = true

end Numeral

namespace Reader

/-- No digit is next. -/
def NoDigit (rest : List Char) : Prop := ∀ c ∈ rest.head?, c.isDigit = false

theorem Delimited.noDigit (h : Delimited rest) : NoDigit rest := by
  intro c hc
  rcases h c hc with rfl | rfl | rfl <;> decide

/-- Digits are read as far as they go. -/
theorem run_digits_append (hds : ∀ c ∈ ds, c.isDigit = true) (hrest : NoDigit rest) :
    digits.run (ds ++ rest) = .ok ds rest := by
  have htake : (ds ++ rest).takeWhile Char.isDigit = ds := by
    rw [List.takeWhile_append_of_pos hds]
    cases rest with
    | nil => simp
    | cons c cs => simp [hrest c rfl]
  have hdrop : (ds ++ rest).dropWhile Char.isDigit = rest := by
    rw [List.dropWhile_append_of_pos hds]
    cases rest with
    | nil => rfl
    | cons c cs => simp [hrest c rfl]
  rw [digits, bind_of_ok (run_get _), hdrop, htake]
  rfl

theorem run_digits₁_append (atEnd : Problem) (hds : ∀ c ∈ ds, c.isDigit = true) (hne : ds ≠ [])
    (hrest : NoDigit rest) : (digits₁ atEnd).run (ds ++ rest) = .ok ds rest := by
  rw [digits₁, bind_of_ok (run_digits_append hds hrest), if_neg (by simpa using hne)]
  rfl

/-- A whole part is read if it does not start with a zero too many. -/
theorem run_wholeDigits_append (hds : ∀ c ∈ ds, c.isDigit = true) (hne : ds ≠ [])
    (hhead : ds.head? = some '0' → ds.length ≤ 1) (hrest : NoDigit rest) :
    (wholeDigits atEnd).run (ds ++ rest) = .ok ds rest := by
  rw [wholeDigits, bind_of_ok (run_digits₁_append atEnd hds hne hrest), if_neg ?_]
  · rfl
  · rintro ⟨hzero, hlength⟩
    have := hhead hzero
    omega

/-- A character that is accepted is taken. -/
theorem run_accept_cons {p : Char → Bool} {c : Char} (hc : p c = true) (cs : List Char) :
    (accept p).run (c :: cs) = .ok true cs := by
  rw [accept, bind_of_ok (run_next? _), List.head?_cons, Option.any_some, if_pos hc]
  rfl

theorem run_accept_of_not {p : Char → Bool} (h : ∀ c ∈ rest.head?, p c = false) :
    (accept p).run rest = .ok false rest := by
  rw [accept, bind_of_ok (run_next? _), if_neg ?_]
  · rfl
  · cases hhead : rest.head? with
    | none => simp
    | some c => simp [h c (by simp [hhead])]

/-- Neither a point nor the letter of an exponent starts what follows a value. -/
theorem Delimited.not_point (h : Delimited rest) : ∀ c ∈ rest.head?, (c == '.') = false := by
  intro c hc
  rcases h c hc with rfl | rfl | rfl <;> decide

theorem Delimited.not_exponent (h : Delimited rest) :
    ∀ c ∈ rest.head?, (c == 'e' || c == 'E') = false := by
  intro c hc
  rcases h c hc with rfl | rfl | rfl <;> decide

/-- A fraction is read with its point, or found missing. -/
theorem run_fraction_append {fraction : Option (List Char)}
    (hne : ∀ ds ∈ fraction, ds ≠ []) (hdigit : ∀ ds ∈ fraction, ∀ c ∈ ds, c.isDigit = true)
    (hrest : NoDigit rest) (hpoint : ∀ c ∈ rest.head?, (c == '.') = false) :
    (Reader.fraction atEnd).run (Numeral.fractionChars fraction ++ rest) = .ok fraction rest := by
  cases fraction with
  | none =>
    rw [Reader.fraction, Numeral.fractionChars, List.nil_append,
      bind_of_ok (run_accept_of_not hpoint), if_neg (by decide)]
    rfl
  | some ds =>
    rw [Reader.fraction, Numeral.fractionChars, List.cons_append,
      bind_of_ok (run_accept_cons (by decide) _), if_pos rfl]
    exact map_of_ok some (run_digits₁_append atEnd (hdigit ds rfl) (hne ds rfl) hrest)

/-- An exponent is read with its sign, or found missing. -/
theorem run_exponent_append (e : Option ℤ) (hrest : Delimited rest) :
    (exponent atEnd).run (Numeral.exponentChars e ++ rest) = .ok e rest := by
  cases e with
  | none =>
    rw [exponent, Numeral.exponentChars, List.nil_append,
      bind_of_ok (run_accept_of_not hrest.not_exponent), if_neg (by decide)]
    rfl
  | some e =>
    have hdigits := run_digits₁_append atEnd
      (fun c hc ↦ Nat.isDigit_of_mem_toDigits (by decide) (by decide) hc)
      (Nat.toDigits_ne_nil (n := e.natAbs) (b := 10)) hrest.noDigit
    have hvalue : decimal (Nat.toDigits 10 e.natAbs) = e.natAbs := by
      rw [decimal_eq, Nat.ofDigitChars_ten_toDigits]
    have hsign : (fun c ↦ c == '+' || c == '-') (if e < 0 then '-' else '+') = true := by
      split_ifs <;> rfl
    rw [exponent, Numeral.exponentChars, List.cons_append, List.cons_append,
      bind_of_ok (run_accept_cons (by decide) _), if_pos rfl, bind_of_ok (run_next? _),
      List.head?_cons]
    dsimp only
    rw [bind_of_ok (run_accept_cons hsign _), bind_of_ok hdigits, hvalue]
    change EStateM.Result.ok (some _) rest = .ok (some e) rest
    congr 2
    split_ifs with hneg <;> grind

/-- What starts an exponent or follows a value is neither a digit nor a point. -/
theorem Delimited.of_exponent (hrest : Delimited rest) (e : Option ℤ) :
    NoDigit (Numeral.exponentChars e ++ rest) ∧
      ∀ c ∈ (Numeral.exponentChars e ++ rest).head?, (c == '.') = false := by
  cases e with
  | none => exact ⟨hrest.noDigit, hrest.not_point⟩
  | some e => constructor <;> rintro c ⟨⟩ <;> decide

/-- **A proper numeral is read from its characters.** -/
theorem run_numeral_append (h : numeral.Proper) (hrest : Delimited rest) :
    (Reader.numeral atEnd).run (numeral.chars ++ rest) = .ok numeral rest := by
  obtain ⟨negative, whole, fraction, exponent⟩ := numeral
  obtain ⟨hne, hdigit, hhead, hfraction_ne, hfraction⟩ := h
  dsimp only at *
  obtain ⟨hnoDigit, hpoint⟩ := hrest.of_exponent exponent
  have hnoDigit' : NoDigit (Numeral.fractionChars fraction ++
      (Numeral.exponentChars exponent ++ rest)) := by
    cases fraction with
    | none => exact hnoDigit
    | some ds =>
      rintro c ⟨⟩
      decide
  have hsign : (accept (· == '-')).run (Numeral.signChars negative ++ (whole ++
      (Numeral.fractionChars fraction ++ (Numeral.exponentChars exponent ++ rest)))) =
      .ok negative (whole ++ (Numeral.fractionChars fraction ++
        (Numeral.exponentChars exponent ++ rest))) := by
    cases negative with
    | true => exact run_accept_cons rfl _
    | false =>
      refine run_accept_of_not ?_
      obtain ⟨d, ds, rfl⟩ := List.exists_cons_of_ne_nil hne
      rintro c ⟨⟩
      have hd := hdigit d List.mem_cons_self
      exact beq_eq_false_iff_ne.2 fun h ↦ absurd (h ▸ hd) (by decide)
  rw [Reader.numeral, Numeral.chars]
  simp only [List.append_assoc]
  rw [bind_of_ok hsign, bind_of_ok (run_wholeDigits_append hdigit hne hhead hnoDigit'),
    bind_of_ok (run_fraction_append hfraction_ne hfraction hnoDigit hpoint),
    bind_of_ok (run_exponent_append exponent hrest)]
  rfl

end Reader

/-! ### Values of numerals -/

/-- More digits make no smaller number. -/
theorem le_ofDigitChars (ds : List Char) (n : Nat) : n ≤ Nat.ofDigitChars 10 ds n := by
  rw [Nat.ofDigitChars_eq_ofDigitChars_zero]
  exact (Nat.le_mul_of_pos_left _ (Nat.pow_pos (by decide))).trans (Nat.le_add_right ..)

/-- Digits are absorbed as long as their number fits. -/
theorem absorb_eq (h : Nat.ofDigitChars 10 ds n < 2 ^ 64) :
    absorb n ds = (Nat.ofDigitChars 10 ds n, []) := by
  induction ds generalizing n with
  | nil => rfl
  | cons c ds ih =>
    have hnext : 10 * n + (c.toNat - '0'.toNat) = n * 10 + digitValue c := by
      rw [digitValue, Nat.mul_comm]
    rw [Nat.ofDigitChars_cons, hnext] at h ⊢
    have hle := le_ofDigitChars ds (n * 10 + digitValue c)
    rw [absorb, if_pos (by exact hle.trans_lt h), ih h]

/-- The digits of a numeral as one number. -/
def Numeral.significand (numeral : Numeral) : Nat :=
  Nat.ofDigitChars 10 (numeral.whole ++ numeral.fraction.getD []) 0

/-- The power of ten of the last digit of a numeral. -/
def Numeral.unit (numeral : Numeral) : ℤ :=
  numeral.exponent.getD 0 - (numeral.fraction.getD []).length

/-- Both parts of a numeral that fits are absorbed. -/
theorem Numeral.absorb_parts (h : numeral.significand < 2 ^ 64) :
    absorb 0 numeral.whole = (Nat.ofDigitChars 10 numeral.whole 0, []) ∧
      absorb (Nat.ofDigitChars 10 numeral.whole 0) (numeral.fraction.getD []) =
        (numeral.significand, []) := by
  rw [significand, Nat.ofDigitChars_append] at *
  exact ⟨absorb_eq ((le_ofDigitChars ..).trans_lt h), absorb_eq h⟩

/-- A numeral of digits alone is an integer. -/
theorem Numeral.value_of_integer (h : numeral.significand < 2 ^ 64)
    (hfraction : numeral.fraction = none) (hexponent : numeral.exponent = none) :
    numeral.value = .ok (integerValue numeral.negative numeral.significand) := by
  obtain ⟨hwhole, -⟩ := absorb_parts h
  have hsignificand : numeral.significand = Nat.ofDigitChars 10 numeral.whole 0 := by
    rw [significand, hfraction, Option.getD_none, List.append_nil]
  rw [value, hwhole, hsignificand]
  simp [hfraction, hexponent]

/-- A numeral with a fraction or an exponent is rounded to a floating-point number. -/
theorem Numeral.value_of_scaled {pattern : Nat} (h : numeral.significand < 2 ^ 64)
    (hpart : numeral.fraction ≠ none ∨ numeral.exponent ≠ none)
    (hscaled : scaled numeral.significand numeral.unit = some pattern) :
    numeral.value = .ok (.floating (Binary.double.withSign numeral.negative pattern)) := by
  obtain ⟨hwhole, hfraction⟩ := absorb_parts h
  have hparts :
      ¬(([] : List Char).isEmpty ∧ numeral.fraction.isNone ∧ numeral.exponent.isNone) := by
    simp only [Option.isNone_iff_eq_none]
    tauto
  have hunit : (([] : List Char).length : ℤ) -
      (((numeral.fraction.getD []).length : ℤ) - (([] : List Char).length : ℤ)) +
      numeral.exponent.getD 0 = numeral.unit := by
    simp only [unit, List.length_nil]
    omega
  rw [value, hwhole]
  dsimp only
  rw [if_neg hparts, hfraction]
  dsimp only
  rw [hunit, hscaled]

namespace Reader

/-- A number is read where a number is expected. -/
theorem run_numberFor_append {value : Number} (h : numeral.Proper)
    (hvalue : numeral.value = .ok value) (hrest : Delimited rest) (expected : String) :
    (numberFor expected).run (numeral.chars ++ rest) = .ok value rest := by
  have hstart : ∃ c cs, numeral.chars ++ rest = c :: cs ∧ startsNumber c = true := by
    obtain ⟨c, cs, hwhole⟩ := List.exists_cons_of_ne_nil h.whole_ne_nil
    rw [Numeral.chars, hwhole]
    cases numeral.negative with
    | true => exact ⟨_, _, rfl, rfl⟩
    | false =>
      refine ⟨_, _, rfl, ?_⟩
      rw [startsNumber, h.whole_isDigit c (hwhole ▸ List.mem_cons_self), Bool.or_true]
  obtain ⟨c, cs, hchars, hc⟩ := hstart
  have hblank : isBlank c = false := by
    rw [← Bool.not_eq_true]
    intro hblank
    simp only [isBlank, Bool.or_eq_true, decide_eq_true_iff] at hblank
    rcases hblank with ((rfl | rfl) | rfl) | rfl <;> exact absurd hc (by decide)
  have hpeek := run_peek_cons hblank cs
  rw [← hchars] at hpeek
  rw [numberFor, bind_of_ok hpeek, Option.any_some, if_pos hc, number,
    bind_of_ok (run_numeral_append h hrest), hvalue]
  rfl

/-- The digits of a natural number as a numeral. -/
theorem proper_toDigits (n : Nat) : (⟨false, Nat.toDigits 10 n, none, none⟩ : Numeral).Proper where
  whole_ne_nil := Nat.toDigits_ne_nil
  whole_isDigit _ hc := Nat.isDigit_of_mem_toDigits (by decide) (by decide) hc
  whole_head h := by
    rcases Nat.eq_zero_or_pos n with rfl | hn
    · rfl
    · exact absurd h (Decimal.head_toDigits_ne hn)
  fraction_ne_nil := by simp
  fraction_isDigit := by simp

/-- A natural number of limited width is read back. -/
theorem reads_natural {width : Nat} (hwidth : width ≤ 64) (hn : n < 2 ^ width) :
    Reads (natural width) (toString n).toList (.ok n) := by
  intro rest hrest
  have hchars : (toString n).toList =
      (⟨false, Nat.toDigits 10 n, none, none⟩ : Numeral).chars := by
    rw [Nat.toString_eq_ofList_toDigits, String.toList_ofList]
    simp [Numeral.chars, Numeral.signChars, Numeral.fractionChars, Numeral.exponentChars]
  have hsignificand : (⟨false, Nat.toDigits 10 n, none, none⟩ : Numeral).significand = n := by
    simp [Numeral.significand]
  have hlt : n < 2 ^ 64 := hn.trans_le (Nat.pow_le_pow_right (by decide) hwidth)
  have hvalue : (⟨false, Nat.toDigits 10 n, none, none⟩ : Numeral).value =
      .ok (integerValue false n) := by
    rw [Numeral.value_of_integer (by rwa [hsignificand]) rfl rfl, hsignificand]
  have hrange : (0 : ℤ) ≤ n ∧ (n : ℤ) < 2 ^ width := ⟨Int.natCast_nonneg n, by exact_mod_cast hn⟩
  rw [hchars, natural, bind_of_ok (run_numberFor_append (proper_toDigits n) hvalue hrest _),
    integerValue, if_pos (by decide)]
  simp only [if_pos hrange]
  rfl

end Reader

end LoraConcentrator.Json
