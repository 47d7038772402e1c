import LoraConcentrator.Bytes.BigEndian

/-!
# Hexadecimal text

Codes and addresses are shown in hexadecimal with a least number of digits, in capitals where a
person reads a code and in small letters where a program reads bytes. Byte strings are shown two
small digits per byte, without separators or, for payloads shown to a person, as a bracketed list.
-/

namespace LoraConcentrator.Hex

/-- The two alphabets of hexadecimal digits. -/
inductive Alphabet
  | capitals
  | small
  deriving DecidableEq, Repr

/-- The character of a digit below sixteen. -/
def Alphabet.digit : Alphabet → Nat → Char
  | _, 0 => '0' | _, 1 => '1' | _, 2 => '2' | _, 3 => '3' | _, 4 => '4'
  | _, 5 => '5' | _, 6 => '6' | _, 7 => '7' | _, 8 => '8' | _, 9 => '9'
  | .capitals, 10 => 'A' | .capitals, 11 => 'B' | .capitals, 12 => 'C'
  | .capitals, 13 => 'D' | .capitals, 14 => 'E' | .capitals, _ => 'F'
  | .small, 10 => 'a' | .small, 11 => 'b' | .small, 12 => 'c'
  | .small, 13 => 'd' | .small, 14 => 'e' | .small, _ => 'f'

/-- The last `width` digits of `n`, most significant first. -/
def digits (alphabet : Alphabet) : (width : Nat) → (n : Nat) → List Char
  | 0, _ => []
  | width + 1, n => digits alphabet width (n / 16) ++ [alphabet.digit (n % 16)]

/-- `n` in exactly `width` digits; enough for every word of `4 * width` bits. -/
def fixed (alphabet : Alphabet) (width : Nat) (n : Nat) : String :=
  String.ofList (digits alphabet width n)

/-- A byte as two capitals. -/
def upper8 (b : UInt8) : String := fixed .capitals 2 b.toNat

/-- A byte as two small digits. -/
def lower8 (b : UInt8) : String := fixed .small 2 b.toNat

/-- A byte string as small digits without separators. -/
def ofBytes (bs : Bytes) : String :=
  String.ofList (bs.flatMap fun b ↦ digits .small 2 b.toNat)

/-- A byte string as a bracketed list of small digit pairs. -/
def listing (bs : Bytes) : String :=
  "[" ++ ", ".intercalate (bs.map lower8) ++ "]"

/-! ### Reading -/

/-- The value of a hexadecimal digit of either alphabet. -/
def value? (c : Char) : Option Nat :=
  if '0' ≤ c ∧ c ≤ '9' then some (c.toNat - '0'.toNat)
  else if 'a' ≤ c ∧ c ≤ 'f' then some (c.toNat - 'a'.toNat + 10)
  else if 'A' ≤ c ∧ c ≤ 'F' then some (c.toNat - 'A'.toNat + 10)
  else none

/-- The bytes of a text of digit pairs, or nothing when it is not one. -/
def toBytes? : List Char → Option Bytes
  | [] => some []
  | [_] => none
  | a :: b :: rest => do
    let high ← value? a
    let low ← value? b
    let tail ← toBytes? rest
    return UInt8.ofNat (high * 16 + low) :: tail

end LoraConcentrator.Hex
