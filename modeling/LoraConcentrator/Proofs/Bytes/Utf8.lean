import LoraConcentrator.Bytes.Utf8

/-!
# The text of a byte string

The lossy reader undoes the writer of the standard library, `String.utf8EncodeChar`, and reads
nothing else as a character: a character is read just where its bytes stand
(`Utf8.next_eq_some_iff`). Between the two stands the grammar of the encoding, which says by ranges
of bytes what is a character (`Utf8.Spells`). So a text without replacement characters is read only
off its own bytes (`Utf8.decodeLossy_eq_iff`), whatever the reader makes of bytes that are no text.
-/

namespace LoraConcentrator.Utf8

/-! ### The grammar -/

/-- The bytes that continue a character. -/
def IsTail (t : UInt8) : Prop := 0x80 ≤ t.toNat ∧ t.toNat ≤ 0xBF

/-- The byte strings that are a character, each with the value of the character. The second byte is
restrained where a shorter form exists, where the value would be a surrogate and where it would be
too large. -/
inductive Spells (n : Nat) : Bytes → Prop
  | one {b : UInt8} : b.toNat < 0x80 → n = b.toNat → Spells n [b]
  | two {b t : UInt8} : 0xC2 ≤ b.toNat → b.toNat < 0xE0 → IsTail t →
      n = (b.toNat - 0xC0) * 64 + (t.toNat - 0x80) → Spells n [b, t]
  | three {b t u : UInt8} : 0xE0 ≤ b.toNat → b.toNat < 0xF0 → IsTail t → IsTail u →
      (b.toNat = 0xE0 → 0xA0 ≤ t.toNat) → (b.toNat = 0xED → t.toNat ≤ 0x9F) →
      n = ((b.toNat - 0xE0) * 64 + (t.toNat - 0x80)) * 64 + (u.toNat - 0x80) → Spells n [b, t, u]
  | four {b t u v : UInt8} : 0xF0 ≤ b.toNat → b.toNat ≤ 0xF4 → IsTail t → IsTail u → IsTail v →
      (b.toNat = 0xF0 → 0x90 ≤ t.toNat) → (b.toNat = 0xF4 → t.toNat ≤ 0x8F) →
      n = (((b.toNat - 0xF0) * 64 + (t.toNat - 0x80)) * 64 + (u.toNat - 0x80)) * 64 +
        (v.toNat - 0x80) → Spells n [b, t, u, v]

variable {b : UInt8} {rest rest' : Bytes} {c : Char}

/-- What is spelled is a character: no surrogate, and not too large. -/
theorem Spells.isValidChar {n : Nat} {bs : Bytes} (h : Spells n bs) : n.isValidChar := by
  unfold Nat.isValidChar
  cases h with
  | one => omega
  | two hlow hhigh ht =>
    rw [IsTail] at ht
    omega
  | three hlow hhigh ht hu hleast hgreatest =>
    rw [IsTail] at ht hu
    omega
  | four hlow hhigh ht hu hv hleast hgreatest =>
    rw [IsTail] at ht hu hv
    omega

theorem toNat_ofNat {n : Nat} (h : n.isValidChar) : (Char.ofNat n).val.toNat = n := by
  rw [Char.ofNat, dif_pos h]
  rfl

theorem ofNat_of_toNat {n : Nat} (h : b.toNat = n) : UInt8.ofNat n = b := by
  rw [← h, UInt8.ofNat_toNat]

/-- The writer spells a character as the grammar does. -/
theorem Spells.eq_utf8EncodeChar {n : Nat} {bs : Bytes} (h : Spells n bs) :
    bs = String.utf8EncodeChar (Char.ofNat n) := by
  have hn := toNat_ofNat h.isValidChar
  cases h with
  | @one b hb heq =>
    rw [String.utf8EncodeChar, hn, if_pos (by omega), heq, UInt8.ofNat_toNat]
  | @two b t hlow hhigh ht =>
    rw [IsTail] at ht
    rw [String.utf8EncodeChar, hn, if_neg (by omega), if_pos (by omega),
      ofNat_of_toNat (b := b) (by omega), ofNat_of_toNat (b := t) (by omega)]
  | @three b t u hlow hhigh ht hu hleast hgreatest =>
    rw [IsTail] at ht hu
    rw [String.utf8EncodeChar, hn, if_neg (by omega), if_neg (by omega), if_pos (by omega),
      ofNat_of_toNat (b := b) (by omega), ofNat_of_toNat (b := t) (by omega),
      ofNat_of_toNat (b := u) (by omega)]
  | @four b t u v hlow hhigh ht hu hv hleast hgreatest =>
    rw [IsTail] at ht hu hv
    rw [String.utf8EncodeChar, hn, if_neg (by omega), if_neg (by omega), if_neg (by omega),
      ofNat_of_toNat (b := b) (by omega), ofNat_of_toNat (b := t) (by omega),
      ofNat_of_toNat (b := u) (by omega), ofNat_of_toNat (b := v) (by omega)]

theorem toNat_ofNat_of_lt {n : Nat} (h : n < 256) : (UInt8.ofNat n).toNat = n := by
  rw [UInt8.toNat_ofNat', Nat.mod_eq_of_lt h]

theorem isTail_ofNat {n : Nat} : IsTail (UInt8.ofNat (n % 64 + 0x80)) := by
  rw [IsTail, toNat_ofNat_of_lt (by omega)]
  omega

/-- What the writer writes for a character spells it. -/
theorem spells_utf8EncodeChar (c : Char) : Spells c.val.toNat (String.utf8EncodeChar c) := by
  have hc : c.val.toNat.isValidChar := c.valid
  rw [String.utf8EncodeChar]
  generalize c.val.toNat = n at hc
  unfold Nat.isValidChar at hc
  split
  · have hb := toNat_ofNat_of_lt (n := n) (by omega)
    exact .one (by omega) (by omega)
  split
  · have hb := toNat_ofNat_of_lt (n := n / 64 % 0x20 + 0xC0) (by omega)
    have ht := toNat_ofNat_of_lt (n := n % 0x40 + 0x80) (by omega)
    exact .two (by omega) (by omega) isTail_ofNat (by omega)
  split
  · have hb := toNat_ofNat_of_lt (n := n / 4096 % 0x10 + 0xE0) (by omega)
    have ht := toNat_ofNat_of_lt (n := n / 64 % 0x40 + 0x80) (by omega)
    have hu := toNat_ofNat_of_lt (n := n % 0x40 + 0x80) (by omega)
    exact .three (by omega) (by omega) isTail_ofNat isTail_ofNat (by omega) (by omega) (by omega)
  · have hb := toNat_ofNat_of_lt (n := n / 262144 % 0x08 + 0xF0) (by omega)
    have ht := toNat_ofNat_of_lt (n := n / 4096 % 0x40 + 0x80) (by omega)
    have hu := toNat_ofNat_of_lt (n := n / 64 % 0x40 + 0x80) (by omega)
    have hv := toNat_ofNat_of_lt (n := n % 0x40 + 0x80) (by omega)
    exact .four (by omega) (by omega) isTail_ofNat isTail_ofNat isTail_ofNat (by omega) (by omega)
      (by omega)

/-- A first byte by the length of its character. -/
theorem lead?_eq (b : UInt8) :
    lead? b =
      if b.toNat < 0x80 then some ⟨b.toNat, 0, 0x80, 0xBF⟩
      else if b.toNat < 0xC2 then none
      else if b.toNat < 0xE0 then some ⟨b.toNat - 0xC0, 1, 0x80, 0xBF⟩
      else if b.toNat < 0xF0 then
        some ⟨b.toNat - 0xE0, 2, if b.toNat = 0xE0 then 0xA0 else 0x80,
          if b.toNat = 0xED then 0x9F else 0xBF⟩
      else if b.toNat ≤ 0xF4 then
        some ⟨b.toNat - 0xF0, 3, if b.toNat = 0xF0 then 0x90 else 0x80,
          if b.toNat = 0xF4 then 0x8F else 0xBF⟩
      else none := by
  unfold lead?
  grind

theorem takeTails_zero_eq_iff {bits low high value : Nat} {bs : Bytes} :
    takeTails bits 0 low high bs = (value, 0, rest') ↔ bits = value ∧ bs = rest' := by
  rw [takeTails, Prod.mk.injEq, Prod.mk.injEq]
  exact and_congr_right fun _ ↦ and_iff_right rfl

/-- One more tail is taken when it is in its range, and then the others. -/
theorem takeTails_succ_eq_iff {bits tails low high value : Nat} {bs : Bytes} :
    takeTails bits (tails + 1) low high bs = (value, 0, rest') ↔
      ∃ t rest, bs = t :: rest ∧ low ≤ t.toNat ∧ t.toNat ≤ high ∧
        takeTails (bits * 64 + (t.toNat - 0x80)) tails 0x80 0xBF rest = (value, 0, rest') := by
  constructor
  · intro h
    cases bs with
    | nil => cases h
    | cons t rest =>
      rw [takeTails] at h
      split at h
      · exact ⟨t, rest, rfl, ‹_ ∧ _›.1, ‹_ ∧ _›.2, h⟩
      · cases h
  · rintro ⟨t, rest, rfl, hlow, hhigh, h⟩
    rw [takeTails, if_pos ⟨hlow, hhigh⟩, h]

/-- A first byte with all its tails is a character. -/
theorem next_of_takeTails {lead : Lead} {n : Nat} (hlead : lead? b = some lead)
    (htails : takeTails lead.bits lead.tails lead.low lead.high rest = (n, 0, rest')) :
    next b rest = (some (Char.ofNat n), rest') := by
  rw [next, hlead]
  dsimp only
  rw [htails]

/-- A character is read off a first byte only where as many continuation bytes follow as it
promises. -/
theorem exists_takeTails_of_next (h : next b rest = (some c, rest')) :
    ∃ lead n, lead? b = some lead ∧
      takeTails lead.bits lead.tails lead.low lead.high rest = (n, 0, rest') ∧
      Char.ofNat n = c := by
  unfold next at h
  split at h
  · cases h
  · rename_i lead hlead
    split at h
    · rename_i n _ htails
      cases h
      exact ⟨lead, n, hlead, htails, rfl⟩
    · cases h

/-- The reader accepts nothing but what the grammar has. -/
theorem exists_spells_of_next (h : next b rest = (some c, rest')) :
    ∃ n bs, Spells n bs ∧ Char.ofNat n = c ∧ b :: rest = bs ++ rest' := by
  obtain ⟨lead, n, hlead, htails, hc⟩ := exists_takeTails_of_next h
  rw [lead?_eq] at hlead
  split at hlead
  · obtain rfl := Option.some.inj hlead
    obtain ⟨heq, rfl⟩ := takeTails_zero_eq_iff.1 htails
    exact ⟨n, [b], .one ‹_› heq.symm, hc, rfl⟩
  split at hlead
  · cases hlead
  split at hlead
  · obtain rfl := Option.some.inj hlead
    obtain ⟨t, _, rfl, hlow, hhigh, htails⟩ := takeTails_succ_eq_iff.1 htails
    obtain ⟨heq, rfl⟩ := takeTails_zero_eq_iff.1 htails
    exact ⟨n, [b, t], .two (by omega) ‹_› ⟨hlow, hhigh⟩ heq.symm, hc, rfl⟩
  split at hlead
  · obtain rfl := Option.some.inj hlead
    obtain ⟨t, _, rfl, hlow, hhigh, htails⟩ := takeTails_succ_eq_iff.1 htails
    obtain ⟨u, _, rfl, hulow, huhigh, htails⟩ := takeTails_succ_eq_iff.1 htails
    obtain ⟨heq, rfl⟩ := takeTails_zero_eq_iff.1 htails
    dsimp only at hlow hhigh
    refine ⟨n, [b, t, u], .three (by omega) ‹_› ?_ ⟨hulow, huhigh⟩ ?_ ?_ heq.symm, hc, rfl⟩ <;>
      grind [IsTail]
  split at hlead
  · obtain rfl := Option.some.inj hlead
    obtain ⟨t, _, rfl, hlow, hhigh, htails⟩ := takeTails_succ_eq_iff.1 htails
    obtain ⟨u, _, rfl, hulow, huhigh, htails⟩ := takeTails_succ_eq_iff.1 htails
    obtain ⟨v, _, rfl, hvlow, hvhigh, htails⟩ := takeTails_succ_eq_iff.1 htails
    obtain ⟨heq, rfl⟩ := takeTails_zero_eq_iff.1 htails
    dsimp only at hlow hhigh
    refine ⟨n, [b, t, u, v], .four (by omega) ‹_› ?_ ⟨hulow, huhigh⟩ ⟨hvlow, hvhigh⟩ ?_ ?_ heq.symm,
      hc, rfl⟩ <;> grind [IsTail]
  · cases hlead

/-- The reader accepts all that the grammar has. -/
theorem exists_next_of_spells {n : Nat} {bs : Bytes} (h : Spells n bs) (rest : Bytes) :
    ∃ b tail, bs = b :: tail ∧ next b (tail ++ rest) = (some (Char.ofNat n), rest) := by
  cases h with
  | @one b hb heq =>
    have hlead := lead?_eq b
    rw [if_pos hb] at hlead
    exact ⟨b, [], rfl, next_of_takeTails hlead (takeTails_zero_eq_iff.2 ⟨heq.symm, rfl⟩)⟩
  | @two b t hlow hhigh ht heq =>
    have hlead := lead?_eq b
    rw [if_neg (by omega), if_neg (by omega), if_pos hhigh] at hlead
    refine ⟨b, [t], rfl, next_of_takeTails hlead ?_⟩
    exact takeTails_succ_eq_iff.2 ⟨t, rest, rfl, ht.1, ht.2,
      takeTails_zero_eq_iff.2 ⟨heq.symm, rfl⟩⟩
  | @three b t u hlow hhigh ht hu hleast hgreatest heq =>
    have hlead := lead?_eq b
    rw [if_neg (by omega), if_neg (by omega), if_neg (by omega), if_pos hhigh] at hlead
    refine ⟨b, [t, u], rfl, next_of_takeTails hlead ?_⟩
    refine takeTails_succ_eq_iff.2 ⟨t, u :: rest, rfl, ?_, ?_,
      takeTails_succ_eq_iff.2 ⟨u, rest, rfl, hu.1, hu.2,
        takeTails_zero_eq_iff.2 ⟨heq.symm, rfl⟩⟩⟩ <;> grind [IsTail]
  | @four b t u v hlow hhigh ht hu hv hleast hgreatest heq =>
    have hlead := lead?_eq b
    rw [if_neg (by omega), if_neg (by omega), if_neg (by omega), if_neg (by omega),
      if_pos hhigh] at hlead
    refine ⟨b, [t, u, v], rfl, next_of_takeTails hlead ?_⟩
    refine takeTails_succ_eq_iff.2 ⟨t, u :: v :: rest, rfl, ?_, ?_,
      takeTails_succ_eq_iff.2 ⟨u, v :: rest, rfl, hu.1, hu.2,
        takeTails_succ_eq_iff.2 ⟨v, rest, rfl, hv.1, hv.2,
          takeTails_zero_eq_iff.2 ⟨heq.symm, rfl⟩⟩⟩⟩ <;> grind [IsTail]

/-- A character is read just where its bytes stand. -/
theorem next_eq_some_iff :
    next b rest = (some c, rest') ↔ b :: rest = String.utf8EncodeChar c ++ rest' := by
  constructor
  · intro h
    obtain ⟨n, bs, hspells, rfl, heq⟩ := exists_spells_of_next h
    rw [heq, ← hspells.eq_utf8EncodeChar]
  · intro h
    obtain ⟨b', tail, hbs, hnext⟩ := exists_next_of_spells (spells_utf8EncodeChar c) rest'
    rw [hbs, List.cons_append] at h
    obtain ⟨rfl, rfl⟩ := List.cons.inj h
    rw [hnext]
    exact congrArg (some ·, rest') (Char.ofNat_toNat c)

/-! ### Texts -/

theorem decodeLossy_nil : decodeLossy [] = [] := by
  rw [decodeLossy, scan]
  rfl

/-- A text is its first character, or a replacement, and the rest. -/
theorem decodeLossy_cons (b : UInt8) (rest : Bytes) :
    decodeLossy (b :: rest) =
      (next b rest).1.getD replacement :: decodeLossy (next b rest).2 := by
  rw [decodeLossy, scan]
  rfl

/-- The reader reads what the writer has written. -/
theorem decodeLossy_flatMap_utf8EncodeChar (cs : List Char) :
    decodeLossy (cs.flatMap String.utf8EncodeChar) = cs := by
  induction cs with
  | nil => exact decodeLossy_nil
  | cons c cs ih =>
    obtain ⟨b, tail, hbs, hnext⟩ := exists_next_of_spells (spells_utf8EncodeChar c)
      (cs.flatMap String.utf8EncodeChar)
    rw [List.flatMap_cons, hbs, List.cons_append, decodeLossy_cons, hnext, ih]
    exact congrArg (· :: cs) (Char.ofNat_toNat c)

/-- A text without replacement characters is read off its own bytes and no others. -/
theorem decodeLossy_eq_iff {bs : Bytes} {cs : List Char} (h : replacement ∉ cs) :
    decodeLossy bs = cs ↔ bs = cs.flatMap String.utf8EncodeChar := by
  constructor
  · intro hread
    induction cs generalizing bs with
    | nil =>
      cases bs with
      | nil => rfl
      | cons b rest =>
        rw [decodeLossy_cons] at hread
        cases hread
    | cons c cs ih =>
      cases bs with
      | nil =>
        rw [decodeLossy_nil] at hread
        cases hread
      | cons b rest =>
        rw [decodeLossy_cons] at hread
        obtain ⟨hfirst, hread⟩ := List.cons.inj hread
        obtain ⟨hne, hnot⟩ := not_or.1 (mt List.mem_cons.2 h)
        have hnext : (next b rest).1 = some c := by
          rcases hc : (next b rest).1 with - | c'
          · rw [hc] at hfirst
            exact absurd hfirst hne
          · rw [hc] at hfirst
            exact congrArg some hfirst
        rw [List.flatMap_cons, ← ih hnot hread]
        exact next_eq_some_iff.1 (Prod.ext hnext rfl)
  · rintro rfl
    exact decodeLossy_flatMap_utf8EncodeChar cs

end LoraConcentrator.Utf8
