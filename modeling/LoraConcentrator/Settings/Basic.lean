import LoraConcentrator.Link.Basic
import LoraConcentrator.Radio.Channel

/-!
# Settings

The settings of a gateway: how its board is reached and spoken to, what each receive radio listens
to and whether the transmit radio is used.
-/

namespace LoraConcentrator

/-- How a board is reached and spoken to. -/
structure BoardSettings where
  /-- The device path of the board; empty when none is set. -/
  path : String := ""
  /-- Whether radio 1 is configured first and must be enabled. -/
  radio1First : Bool := true
  /-- Whether a reply must carry the id of its request. -/
  checksIds : Bool := false
  readTimeoutMs : UInt64 := 100
  replyTimeoutMs : UInt64 := 10000
  pollIntervalMs : UInt64 := 10
  deriving DecidableEq, Repr, Inhabited

namespace BoardSettings

/-- The time-outs of the link to the board. -/
def linkSettings (board : BoardSettings) : LinkSettings :=
  ⟨.ofMillis board.readTimeoutMs.toNat, .ofMillis board.replyTimeoutMs.toNat⟩

/-- The time between two questions for the state of a transmission. -/
def pollInterval (board : BoardSettings) : Duration := .ofMillis board.pollIntervalMs.toNat

end BoardSettings

/-- The settings of a gateway. -/
structure Settings where
  board : BoardSettings := {}
  /-- What the receive radios listen to, the first radio first. -/
  rxChannels : List RxChannel := []
  tx : TxChannel := {}
  deriving DecidableEq, Repr, Inhabited

end LoraConcentrator
