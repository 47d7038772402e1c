import LoraConcentrator.Bytes.BigEndian

/-!
# UTF-8

The text of a byte string. The first byte of a character fixes how many bytes follow it and the
range of the second one; every later byte continues with two bits of tag and six of value. Reading
is either strict (`decode?`) or lossy (`decodeLossy`): the lossy reader writes one replacement
character for each maximal run of bytes that starts a character and cannot be completed.
-/

namespace LoraConcentrator.Utf8

/-- What a first byte promises: the value bits it holds, the number of bytes after it and the least
and greatest second byte. -/
structure Lead where
  bits : Nat
  tails : Nat
  low : Nat
  high : Nat
  deriving DecidableEq, Repr

/-- The promise of a first byte, if a character can start with it. -/
def lead? (b : UInt8) : Option Lead :=
  let n := b.toNat
  if n < 0x80 then some ⟨n, 0, 0x80, 0xBF⟩
  else if n < 0xC2 then none
  else if n < 0xE0 then some ⟨n - 0xC0, 1, 0x80, 0xBF⟩
  else if n = 0xE0 then some ⟨n - 0xE0, 2, 0xA0, 0xBF⟩
  else if n = 0xED then some ⟨n - 0xE0, 2, 0x80, 0x9F⟩
  else if n < 0xF0 then some ⟨n - 0xE0, 2, 0x80, 0xBF⟩
  else if n = 0xF0 then some ⟨n - 0xF0, 3, 0x90, 0xBF⟩
  else if n < 0xF4 then some ⟨n - 0xF0, 3, 0x80, 0xBF⟩
  else if n = 0xF4 then some ⟨n - 0xF0, 3, 0x80, 0x8F⟩
  else none

/-- Takes up to `tails` continuation bytes, the first of them within `low` and `high`: the value
gathered, the number of bytes still owed and the bytes after those taken. -/
def takeTails (bits : Nat) : (tails : Nat) → (low high : Nat) → Bytes → Nat × Nat × Bytes
  | 0, _, _, rest => (bits, 0, rest)
  | tails + 1, _, _, [] => (bits, tails + 1, [])
  | tails + 1, low, high, b :: rest =>
    if low ≤ b.toNat ∧ b.toNat ≤ high then
      takeTails (bits * 64 + (b.toNat - 0x80)) tails 0x80 0xBF rest
    else (bits, tails + 1, b :: rest)

/-- Tails are taken off the front. -/
theorem length_takeTails_le (bits tails low high : Nat) (bs : Bytes) :
    (takeTails bits tails low high bs).2.2.length ≤ bs.length := by
  induction tails generalizing bits low high bs with
  | zero => simp [takeTails]
  | succ tails ih =>
    cases bs with
    | nil => simp [takeTails]
    | cons b rest =>
      rw [takeTails]
      split
      · exact Nat.le_succ_of_le (ih _ _ _ rest)
      · exact Nat.le_refl _

/-- The first character of a byte string with the bytes after it; nothing in place of the character
when the bytes before the rest are no character. -/
def next (b : UInt8) (rest : Bytes) : Option Char × Bytes :=
  match lead? b with
  | none => (none, rest)
  | some lead =>
    match takeTails lead.bits lead.tails lead.low lead.high rest with
    | (value, 0, rest) => (some (Char.ofNat value), rest)
    | (_, _ + 1, rest) => (none, rest)

/-- What is left after a character is no longer than what it was read from. -/
theorem length_next_le (b : UInt8) (rest : Bytes) : (next b rest).2.length ≤ rest.length := by
  unfold next
  split
  · exact Nat.le_refl _
  · rename_i lead _
    have h := length_takeTails_le lead.bits lead.tails lead.low lead.high rest
    split <;> rename_i heq <;> rw [heq] at h <;> exact h

/-- The characters of a byte string in order, nothing standing for each ill-formed run. -/
def scan : Bytes → List (Option Char)
  | [] => []
  | b :: rest =>
    have : (next b rest).2.length < rest.length + 1 := Nat.lt_succ_of_le (length_next_le b rest)
    (next b rest).1 :: scan (next b rest).2
termination_by bs => bs.length

/-- The replacement character, which stands for an ill-formed run. -/
def replacement : Char := '\uFFFD'

/-- The text of a byte string, each ill-formed run replaced. -/
def decodeLossy (bs : Bytes) : List Char :=
  (scan bs).map fun c ↦ c.getD replacement

/-- The text of a byte string that holds no ill-formed run. -/
def decode? (bs : Bytes) : Option (List Char) :=
  (scan bs).mapM id

end LoraConcentrator.Utf8
