import LoraConcentrator.Binary.Single
import LoraConcentrator.Bytes.BigEndian
import LoraConcentrator.Radio.Modulation

/-!
# Packets

A packet to send carries its transmission parameters, a received one what the radio measured. A
payload is at most 255 bytes long, which is part of its type.
-/

namespace LoraConcentrator

open Binary

/-- The most bytes a payload holds. -/
def Payload.capacity : Nat := 255

/-- The payload of a packet. -/
structure Payload where
  bytes : Bytes
  length_le : bytes.length ≤ Payload.capacity := by decide
  deriving DecidableEq, Repr

namespace Payload

/-- The payload without bytes. -/
def empty : Payload := ⟨[], Nat.zero_le _⟩

instance : Inhabited Payload := ⟨empty⟩

/-- The payload of a byte string that is short enough. -/
def ofBytes? (bs : Bytes) : Option Payload :=
  if h : bs.length ≤ capacity then some ⟨bs, h⟩ else none

/-- The number of bytes. -/
def size (p : Payload) : Nat := p.bytes.length

@[ext]
theorem ext {p q : Payload} (h : p.bytes = q.bytes) : p = q := by
  cases p
  cases q
  cases h
  rfl

/-- The bytes of a payload fit into one. -/
@[simp]
theorem ofBytes?_bytes (p : Payload) : ofBytes? p.bytes = some p := by
  rw [ofBytes?, dif_pos p.length_le]

end Payload

/-- The synchronisation word of public networks. -/
def publicSyncWord : UInt8 := 0x21

/-- The number of preamble symbols that networks agree on. -/
def standardPreamble : UInt16 := 8

/-- A packet to send. The power is in dBm, the start time of a timestamped packet in
microseconds. -/
structure TxPacket where
  freqHz : UInt32 := 0
  mode : TxMode := .immediate
  countUs : UInt32 := 0
  power : Int8 := 10
  bandwidth : Bandwidth := .khz800
  spreading : SpreadingFactor := .sf12
  coding : CodingRate := .long48
  invertPolarity : Bool := false
  preamble : UInt16 := standardPreamble
  noCrc : Bool := false
  noHeader : Bool := false
  syncWord : UInt8 := publicSyncWord
  payload : Payload := .empty
  deriving DecidableEq, Repr, Inhabited

/-- A received packet. The frequency and the modulation parameters are those of the radio the packet
came through, unknown until they are looked up. -/
structure RxPacket where
  freqHz : UInt32 := 0
  channel : UInt8 := 0
  status : CrcStatus := .undefined
  countUs : UInt32 := 0
  offsetHz : Int32 := 0
  modulation : Modulation := .lora
  bandwidth : Option Bandwidth := none
  spreading : Option SpreadingFactor := none
  coding : Option CodingRate := none
  rssi : Single := ⟨0⟩
  snr : Single := ⟨0⟩
  payload : Payload := .empty
  deriving DecidableEq, Repr, Inhabited

end LoraConcentrator
