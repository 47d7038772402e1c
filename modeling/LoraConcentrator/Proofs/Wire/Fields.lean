import LoraConcentrator.Bytes.BigEndian

/-!
# Fields of a byte string

The protocol is documented by places: a field starts at a byte of the payload and takes a number of
bytes, the most significant one first. Here the value of a field is said by its place and its length
alone, for fields of every length, and the readers of two and of four bytes agree with it.
-/

namespace LoraConcentrator.BigEndian

-- Powers of natural numbers are those of the core library.
attribute [local instance (2000)] instPowNat instNatPowNat

/-- The byte at a place of a string, zero beyond its end. -/
def byteAt (bs : Bytes) (i : Nat) : UInt8 := bs[i]?.getD 0

theorem getElem?_eq_byteAt {bs : Bytes} {i : Nat} (h : i < bs.length) :
    bs[i]? = some (byteAt bs i) := by
  rw [byteAt, List.getElem?_eq_getElem h]
  rfl

/-- The bytes of a field. -/
def fieldAt (bs : Bytes) (start size : Nat) : Bytes := (bs.drop start).take size

/-- The number that bytes are the digits of, to the base of 256. -/
def value (bs : Bytes) : Nat := bs.foldl (fun n b ↦ n * 256 + b.toNat) 0

/-- The value of a field without a sign. -/
def valueAt (bs : Bytes) (start size : Nat) : Nat := value (fieldAt bs start size)

/-- The value of a field with a sign: the upper half of its range stands for negative numbers. -/
def signedAt (bs : Bytes) (start size : Nat) : Int :=
  (valueAt bs start size : Int).bmod (256 ^ size)

/-- Two bytes are read as their big-endian number. -/
theorem toNat_decode16_eq_value (a b : UInt8) : (decode16 a b).toNat = value [a, b] := by
  rw [toNat_decode16, value, List.foldl_cons, List.foldl_cons, List.foldl_nil, Nat.zero_mul,
    Nat.zero_add]

/-- Four bytes are read as their big-endian number. -/
theorem toNat_decode32_eq_value (a b c d : UInt8) :
    (decode32 a b c d).toNat = value [a, b, c, d] := by
  rw [toNat_decode32, value, List.foldl_cons, List.foldl_cons, List.foldl_cons, List.foldl_cons,
    List.foldl_nil, Nat.zero_mul, Nat.zero_add]

/-- A byte with a sign is the balanced remainder of its number. -/
theorem toInt_toInt8_eq_bmod (a : UInt8) : a.toInt8.toInt = (value [a] : Int).bmod UInt8.size := by
  have hvalue : value [a] = a.toNat := by
    rw [value, List.foldl_cons, List.foldl_nil, Nat.zero_mul, Nat.zero_add]
  rw [hvalue]
  exact BitVec.toInt_eq_toNat_bmod a.toBitVec

/-- Two bytes with a sign are the balanced remainder of their number. -/
theorem toInt_decode16_eq_bmod (a b : UInt8) :
    (decode16 a b).toInt16.toInt = (value [a, b] : Int).bmod UInt16.size := by
  rw [← toNat_decode16_eq_value]
  exact BitVec.toInt_eq_toNat_bmod (decode16 a b).toBitVec

/-- Four bytes with a sign are the balanced remainder of their number. -/
theorem toInt_decode32_eq_bmod (a b c d : UInt8) :
    (decode32 a b c d).toInt32.toInt = (value [a, b, c, d] : Int).bmod UInt32.size := by
  rw [← toNat_decode32_eq_value]
  exact BitVec.toInt_eq_toNat_bmod (decode32 a b c d).toBitVec

end LoraConcentrator.BigEndian
