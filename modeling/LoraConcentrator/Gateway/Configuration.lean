import LoraConcentrator.Gateway.Basic

/-!
# Configuration of a gateway

The board and the channels are set while the gateway is stopped. Applying whole settings sets the
board first, then the listed channels in order and the transmit channel last; channels not listed
keep their value, and settings that list a channel too many are applied up to it.
-/

namespace LoraConcentrator

namespace GatewayM

/-- Sets how the board is reached and spoken to. -/
def configureBoard (board : BoardSettings) : GatewayM Unit := do
  ensureStopped
  note (.boardConfigured board.path)
  modify fun g ↦ { g with board := board }

/-- The notice of a channel that was set. -/
def channelNotice (index : UInt8) (channel : RxChannel) : Notice :=
  if channel.enabled then .channelEnabled index channel else .channelDisabled index

/-- Sets what a receive radio listens to. -/
def configureRxChannel (index : UInt8) (channel : RxChannel) : GatewayM Unit := do
  ensureStopped
  if h : index.toNat < rxChannelCount then
    modify fun g ↦ { g with rxChannels := g.rxChannels.set index.toNat channel h }
    note (channelNotice index channel)
  else throw (.invalidChannel index (UInt8.ofNat rxChannelCount))

/-- Sets receive channels in order, from the given index on. -/
def configureRxChannels : (index : Nat) → List RxChannel → GatewayM Unit
  | _, [] => return
  | index, channel :: channels => do
    configureRxChannel (UInt8.ofNat index) channel
    configureRxChannels (index + 1) channels

/-- Sets the transmit channel. -/
def configureTxChannel (channel : TxChannel) : GatewayM Unit := do
  ensureStopped
  modify fun g ↦ { g with txChannel := channel }

/-- Applies settings. -/
def applySettings (settings : Settings) : GatewayM Unit := do
  configureBoard settings.board
  configureRxChannels 0 settings.rxChannels
  configureTxChannel settings.tx

/-- Replaces the gateway by a new one with the given settings; a gateway that cannot be replaced
stays as it is. -/
def replaceBy (settings : Settings) : GatewayM Unit := fun g ↦
  match applySettings settings { link := g.link } with
  | .ok _ new => .ok () (if g.isStarted then { new with link := new.link.close } else new)
  | .error e new => .error e { g with link := new.link }

end GatewayM

namespace Gateway

/-- What a receive radio is set to. -/
def rxChannel? (gateway : Gateway) (index : UInt8) : Option RxChannel :=
  gateway.rxChannels[index.toNat]?

end Gateway

end LoraConcentrator
