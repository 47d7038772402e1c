import LoraConcentrator.Radio.Packet

/-!
# Time on air

How long a packet occupies the channel: its preamble and data symbols times the length of a symbol.
The formulas are written once for every arithmetic (`Arithmetic`). The library computes with
floating-point numbers (`Airtime.ofPacket`); the same formulas over the rational numbers say what is
meant (`exactMs`).
-/

namespace LoraConcentrator

/-- An arithmetic that a time on air can be computed in. -/
class Arithmetic (α : Type) extends Add α, Sub α, Mul α, Div α, Max α, Min α where
  ofNat : Nat → α
  ceil : α → α
  less : α → α → Bool
  /-- The whole part in 32 bits, which hold a number below or above their range as the nearest one
  in it. -/
  toUInt32 : α → UInt32

instance : Arithmetic Float where
  ofNat := Float.ofNat
  ceil := Float.ceil
  less x y := x < y
  toUInt32 := Float.toUInt32

instance : Arithmetic Rat where
  add := Rat.add
  sub := Rat.sub
  mul := Rat.mul
  div := Rat.div
  max x y := if Rat.blt x y then y else x
  min x y := if Rat.blt x y then x else y
  ofNat n := Rat.ofInt n
  ceil x := Rat.ofInt x.ceil
  less := Rat.blt
  toUInt32 x := UInt32.ofNat (min x.floor.toNat (UInt32.size - 1))

/-- The symbols a modem sends in a millisecond on each bandwidth, slightly more than its number of
kilohertz. -/
def Bandwidth.symbolRate : Bandwidth → Nat
  | khz200 => 203
  | khz400 => 406
  | khz800 => 812
  | khz1600 => 1625

/-- Whether the modem synchronizes finely, with two symbols more in front of the data. -/
def SpreadingFactor.isFine (sf : SpreadingFactor) : Bool := sf.bits ≤ 6

/-- The bits that a symbol of the data carries: two fewer than it has at the slowest factors. -/
def SpreadingFactor.dataBits (sf : SpreadingFactor) : Nat :=
  if sf.bits ≥ 11 then sf.bits - 2 else sf.bits

/-- The bits that each of the first eight data symbols carries where there is no header. -/
def SpreadingFactor.startBits (sf : SpreadingFactor) : Nat :=
  sf.bits - 2 + (if sf.isFine then 2 else 0)

namespace TxPacket

-- Powers of natural numbers are those of the core library.
attribute [local instance (2000)] instPowNat instNatPowNat

/-- The bytes of the payload and of its check. -/
def checkedSize (packet : TxPacket) : Nat :=
  packet.payload.size + (if packet.noCrc then 0 else 2)

section

variable (α : Type) [Arithmetic α]

open Arithmetic (ofNat ceil less toUInt32)

/-- The length of a symbol in milliseconds. -/
def symbolPeriod (packet : TxPacket) : α :=
  (ofNat (2 ^ packet.spreading.bits) : α) / ofNat packet.bandwidth.symbolRate

/-- The share of information in the bits that are sent. The densest long rate has a number of its
own. -/
def codeShare (packet : TxPacket) : α :=
  let n := packet.coding.number
  if packet.coding.isLong then (ofNat 4 : α) / ofNat (if n = 7 then n + 1 else n)
  else (ofNat 4 : α) / ofNat (4 + n)

/-- The bits to be sent, check included. -/
def checkedBits (packet : TxPacket) : α := (ofNat 8 : α) * ofNat packet.checkedSize

/-- The payload bits that the symbols of the header have room for. -/
def headerRoom (packet : TxPacket) : α :=
  let sf := packet.spreading
  (ofNat sf.bits : α) * ofNat 4 + ofNat (if sf.isFine then 8 else 0) - ofNat 8 -
    ofNat (if packet.noHeader then 0 else 20)

/-- The data symbols of a rate without long interleaving: whole blocks follow the header. -/
def blockSymbols (packet : TxPacket) : α :=
  let left : α := max (checkedBits α packet - headerRoom α packet) (ofNat 0)
  ofNat 8 + ceil (left / ofNat 4 / ofNat packet.spreading.dataBits) *
    ofNat (packet.coding.number + 4)

/-- The bits that the symbols of the header take from a long rate; none of the check, unless all of
it fits as well. -/
def headedRoom (packet : TxPacket) : α :=
  let room : α := headerRoom α packet
  if less room (checkedBits α packet) then min room (ofNat 8 * ofNat packet.payload.size)
  else room

/-- The data symbols of a long rate with a header. -/
def headedSymbols (packet : TxPacket) : α :=
  let left : α := max (checkedBits α packet - headedRoom α packet) (ofNat 0)
  ofNat 8 + ceil (left / codeShare α packet / ofNat packet.spreading.dataBits)

/-- The bits of a packet without header as they are coded. -/
def codedBits (packet : TxPacket) : α := checkedBits α packet / codeShare α packet

/-- The symbols of a packet without header if all of them carried as few bits as the first eight. -/
def startSymbols (packet : TxPacket) : α :=
  ceil (codedBits α packet / ofNat packet.spreading.startBits)

/-- The data symbols of a long rate without header: the first eight carry fewer bits, and a packet
that does not fill them ends early. -/
def bareSymbols (packet : TxPacket) : α :=
  let start : α := startSymbols α packet
  if less start (ofNat 8) then start
  else
    ofNat 8 + ceil ((codedBits α packet - ofNat packet.spreading.startBits * ofNat 8) /
      ofNat packet.spreading.dataBits)

/-- The number of data symbols. -/
def dataSymbols (packet : TxPacket) : α :=
  if ¬ packet.coding.isLong then blockSymbols α packet
  else if ¬ packet.noHeader then headedSymbols α packet
  else bareSymbols α packet

/-- The number of preamble symbols, which is no whole number. -/
def preambleSymbols (packet : TxPacket) : α :=
  (ofNat packet.preamble.toNat : α) + ofNat 17 / ofNat 4 +
    ofNat (if packet.spreading.isFine then 2 else 0)

/-- The time on air in milliseconds. -/
def exactMs (packet : TxPacket) : α :=
  (preambleSymbols α packet + dataSymbols α packet) * symbolPeriod α packet

/-- The next whole millisecond. -/
def wholeMs (packet : TxPacket) : UInt32 := toUInt32 (ceil (exactMs α packet))

end

end TxPacket

/-- A time on air. -/
structure Airtime where
  exactMs : Float
  /-- The next whole millisecond. -/
  ms : UInt32

/-- The time on air of a packet. -/
def Airtime.ofPacket (packet : TxPacket) : Airtime :=
  ⟨packet.exactMs Float, packet.wholeMs Float⟩

end LoraConcentrator
