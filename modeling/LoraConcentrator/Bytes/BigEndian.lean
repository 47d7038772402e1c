/-!
# Big-endian integers

Every integer of the protocol wider than a byte is written most significant byte first. This module
fixes the byte strings the library works on and the two widths the protocol uses, each with its
writer and its reader. Main statements: reading undoes writing (`decode16_encode16`,
`decode32_encode32`) and writing undoes reading (`encode16_decode16`, `encode32_decode32`), so the
two forms carry the same information.
-/

namespace LoraConcentrator

/-- A string of bytes, first byte first. -/
abbrev Bytes := List UInt8

namespace BigEndian

/-! ### Sixteen bits -/

/-- The two bytes of a sixteen bit integer. -/
def encode16 (n : UInt16) : Bytes :=
  [UInt8.ofNat (n.toNat / 256), UInt8.ofNat n.toNat]

/-- The sixteen bit integer of two bytes. -/
def decode16 (a b : UInt8) : UInt16 :=
  UInt16.ofNat (a.toNat * 256 + b.toNat)

@[simp]
theorem length_encode16 (n : UInt16) : (encode16 n).length = 2 := rfl

/-- The first byte counts 256 times. -/
@[simp]
theorem toNat_decode16 (a b : UInt8) : (decode16 a b).toNat = a.toNat * 256 + b.toNat := by
  have ha := a.toNat_lt
  have hb := b.toNat_lt
  rw [decode16, UInt16.toNat_ofNat']
  omega

/-- Reading undoes writing. -/
theorem decode16_encode16 (n : UInt16) :
    decode16 (UInt8.ofNat (n.toNat / 256)) (UInt8.ofNat n.toNat) = n := by
  have hn := n.toNat_lt
  apply UInt16.toNat_inj.1
  rw [toNat_decode16, UInt8.toNat_ofNat', UInt8.toNat_ofNat']
  omega

/-- Writing undoes reading. -/
theorem encode16_decode16 (a b : UInt8) : encode16 (decode16 a b) = [a, b] := by
  have ha := a.toNat_lt
  have hb := b.toNat_lt
  have h1 : UInt8.ofNat ((decode16 a b).toNat / 256) = a := by
    apply UInt8.toNat_inj.1
    rw [toNat_decode16, UInt8.toNat_ofNat']
    omega
  have h2 : UInt8.ofNat (decode16 a b).toNat = b := by
    apply UInt8.toNat_inj.1
    rw [toNat_decode16, UInt8.toNat_ofNat']
    omega
  rw [encode16, h1, h2]

/-! ### Thirty-two bits -/

/-- The four bytes of a thirty-two bit integer. -/
def encode32 (n : UInt32) : Bytes :=
  [UInt8.ofNat (n.toNat / 16777216), UInt8.ofNat (n.toNat / 65536), UInt8.ofNat (n.toNat / 256),
    UInt8.ofNat n.toNat]

/-- The thirty-two bit integer of four bytes. -/
def decode32 (a b c d : UInt8) : UInt32 :=
  UInt32.ofNat (((a.toNat * 256 + b.toNat) * 256 + c.toNat) * 256 + d.toNat)

@[simp]
theorem length_encode32 (n : UInt32) : (encode32 n).length = 4 := rfl

/-- Each byte counts 256 times the one after it. -/
@[simp]
theorem toNat_decode32 (a b c d : UInt8) :
    (decode32 a b c d).toNat = ((a.toNat * 256 + b.toNat) * 256 + c.toNat) * 256 + d.toNat := by
  have ha := a.toNat_lt
  have hb := b.toNat_lt
  have hc := c.toNat_lt
  have hd := d.toNat_lt
  rw [decode32, UInt32.toNat_ofNat']
  omega

/-- Reading undoes writing. -/
theorem decode32_encode32 (n : UInt32) :
    decode32 (UInt8.ofNat (n.toNat / 16777216)) (UInt8.ofNat (n.toNat / 65536))
      (UInt8.ofNat (n.toNat / 256)) (UInt8.ofNat n.toNat) = n := by
  have hn := n.toNat_lt
  apply UInt32.toNat_inj.1
  rw [toNat_decode32, UInt8.toNat_ofNat', UInt8.toNat_ofNat', UInt8.toNat_ofNat',
    UInt8.toNat_ofNat']
  omega

/-- Writing undoes reading. -/
theorem encode32_decode32 (a b c d : UInt8) : encode32 (decode32 a b c d) = [a, b, c, d] := by
  have ha := a.toNat_lt
  have hb := b.toNat_lt
  have hc := c.toNat_lt
  have hd := d.toNat_lt
  have h1 : UInt8.ofNat ((decode32 a b c d).toNat / 16777216) = a := by
    apply UInt8.toNat_inj.1
    rw [toNat_decode32, UInt8.toNat_ofNat']
    omega
  have h2 : UInt8.ofNat ((decode32 a b c d).toNat / 65536) = b := by
    apply UInt8.toNat_inj.1
    rw [toNat_decode32, UInt8.toNat_ofNat']
    omega
  have h3 : UInt8.ofNat ((decode32 a b c d).toNat / 256) = c := by
    apply UInt8.toNat_inj.1
    rw [toNat_decode32, UInt8.toNat_ofNat']
    omega
  have h4 : UInt8.ofNat (decode32 a b c d).toNat = d := by
    apply UInt8.toNat_inj.1
    rw [toNat_decode32, UInt8.toNat_ofNat']
    omega
  rw [encode32, h1, h2, h3, h4]

end BigEndian

end LoraConcentrator
