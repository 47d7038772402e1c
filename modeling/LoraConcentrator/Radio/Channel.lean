import LoraConcentrator.Radio.Packet

/-!
# Channels

Each receive radio of the board listens on one channel; the board has at most three of them, and one
transmit radio.
-/

namespace LoraConcentrator

open Binary

/-- The most receive radios a board has. -/
abbrev rxChannelCount : Nat := 3

/-- What a receive radio listens to. -/
structure RxChannel where
  enabled : Bool := false
  freqHz : UInt32 := 0
  bandwidth : Bandwidth := .khz800
  spreading : SpreadingFactor := .sf12
  /-- Added to the strength of every packet received on the channel. -/
  rssiOffset : Single := ⟨0⟩
  syncWord : UInt8 := publicSyncWord
  deriving DecidableEq, Repr, Inhabited

/-- The transmit radio. -/
structure TxChannel where
  enabled : Bool := false
  deriving DecidableEq, Repr, Inhabited

end LoraConcentrator
