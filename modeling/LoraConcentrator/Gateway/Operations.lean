import LoraConcentrator.Gateway.Session

/-!
# Operations of a gateway

What a started gateway does: fetching packets, sending, telling its state and reaching into its
radios. A received packet comes with what its radio listens to. The identifier of a board can be
read while the gateway is stopped as well, over a link that is opened for it alone.
-/

namespace LoraConcentrator

/-! ### Completed packets -/

/-- A received packet with what the radio it came through listens to. -/
def RxPacket.completedBy (packet : RxPacket) (channel : RxChannel) : RxPacket :=
  { packet with
    freqHz := channel.freqHz
    bandwidth := some channel.bandwidth
    spreading := some channel.spreading
    status := .good
    modulation := .lora
    coding := some .long48
    rssi := packet.rssi + channel.rssiOffset }

/-- A received packet with what its channel listens to, if there is such a channel. -/
def RxPacket.completed (packet : RxPacket) (channels : RxChannels) : RxPacket :=
  match channels[packet.channel.toNat]? with
  | some channel => packet.completedBy channel
  | none => packet

/-! ### States -/

/-- What the transmit radio does. -/
inductive TxActivity
  | off
  | free
  | scheduled
  | emitting
  | unknown
  deriving DecidableEq, Repr

/-- The name of what the transmit radio does. -/
def TxActivity.name : TxActivity → String
  | off => "TxOff"
  | free => "TxFree"
  | scheduled => "TxScheduled"
  | emitting => "TxEmitting"
  | unknown => "TxStatusUnknown"

/-- What the transmit radio does, by the status the device reports. -/
def TxStatus.activity : TxStatus → TxActivity
  | idle | done => .free
  | loaded => .scheduled
  | onAir => .emitting
  | badParameter | failedToSend | timedOut | unknown _ => .unknown

/-- What the receive radios do. -/
inductive RxActivity
  | off
  | on
  deriving DecidableEq, Repr

/-- The name of what the receive radios do. -/
def RxActivity.name : RxActivity → String
  | off => "RxOff"
  | on => "RxOn"

namespace GatewayM

/-! ### Packets -/

/-- Reports what the receive radios counted, from the given radio on. -/
def noteCounters : (radio : Nat) → List CrcCounters → GatewayM Unit
  | _, [] => return
  | radio, counters :: rest => do
    note (.radioCounters radio counters)
    noteCounters (radio + 1) rest

/-- Completes packets in order. -/
def completePackets (channels : RxChannels) : List RxPacket → GatewayM (List RxPacket)
  | [] => return []
  | packet :: packets => do
    if channels[packet.channel.toNat]?.isNone then
      note (.unknownChannel packet.channel)
    let rest ← completePackets channels packets
    return packet.completed channels :: rest

/-- Fetches the messages of the device, of which at most `limit` are kept. -/
def receive (limit : Nat) : GatewayM (List RxPacket) := do
  let packets ← inSession (DialogueM.receive limit)
  let status ← inSession DialogueM.status
  noteCounters 0 status.counters
  completePackets (← get).rxChannels packets

/-- Hands a packet to the transmit radio. -/
def send (packet : TxPacket) : GatewayM Unit :=
  inSession do
    DialogueM.note (.sending packet)
    DialogueM.prepareTx packet

/-- Sends a packet and waits until the transmission is over. -/
def sendAndWait (packet : TxPacket) (limit : Duration) : GatewayM TxStatus := do
  let interval := (← get).board.pollInterval
  send packet
  inSession (DialogueM.awaitTx interval limit)

/-- Cancels a transmission. -/
def abortTx : GatewayM Unit := inSession (DialogueM.reset .tx)

/-! ### State -/

/-- What the transmit radio does. -/
def txActivity : GatewayM TxActivity := do
  if (← get).isStarted then
    let status ← inSession DialogueM.txStatus
    if let .unknown code := status then
      note (.unknownTxStatus code)
    return status.activity
  else return .off

/-- What the receive radios do. -/
def rxActivity : GatewayM RxActivity := do
  if (← get).isStarted then return .on else return .off

/-- Resets every radio, and the microcontroller when asked to. -/
def reset (withMcu : Bool) : GatewayM Unit := inSession (DialogueM.resetAll withMcu)

/-- The microseconds counted at the last pulse per second. -/
def pulseCounter : GatewayM UInt32 := do
  return (← inSession DialogueM.status).ppsTimeUs

/-- The microseconds counted now. -/
def instantCounter : GatewayM UInt32 := do
  return (← inSession DialogueM.status).preciseTimeUs

/-- The temperature of the board in degrees. -/
def temperature : GatewayM Binary.Single := do
  return (← inSession DialogueM.status).celsius

/-- The identifier of the board, read over a link that is opened for it alone. -/
def euiOfClosed : GatewayM UInt64 := do
  openLink
  let g ← get
  match DialogueM.ping ⟨g.newController, g.link⟩ with
  | .ok identity d =>
    set { g with link := d.link.close }
    return identity.eui
  | .error e d =>
    set { g with link := d.link.close }
    throw e

/-- The identifier of the board. -/
def eui : GatewayM UInt64 := do
  if (← get).isStarted then
    return (← inSession DialogueM.ping).eui
  else euiOfClosed

/-! ### Registers -/

/-- Reads a register of a radio. -/
def readRegister (radio : UInt8) (address : UInt16) : GatewayM UInt8 :=
  inSession (DialogueM.readRegister radio address)

/-- Writes a register of a radio. -/
def writeRegister (radio : UInt8) (address : UInt16) (value : UInt8) : GatewayM Unit :=
  inSession (DialogueM.writeRegister radio address value)

/-- Sets how the measured signal strength of a radio follows the temperature. -/
def setRssiCoefficient (radio : UInt8) (coefficient : Binary.Single) : GatewayM Unit :=
  inSession (DialogueM.setRssiCoefficient radio coefficient)

end GatewayM

end LoraConcentrator
