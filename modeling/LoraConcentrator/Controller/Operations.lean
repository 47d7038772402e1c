import LoraConcentrator.Controller.Basic

/-!
# Operations of a controller

What a host asks of the board, each operation one exchange or a few. The numbers of radios are
learned by `ping` alone, and two operations are refused before anything is written when the radios
they need are not known. `receive` reads every message the device announces, also those there is no
room for, so that the next exchange finds its own reply.
-/

namespace LoraConcentrator.DialogueM

/-! ### Asking -/

/-- Asks the device who it is and learns its numbers of radios. -/
def ping : DialogueM Identity := do
  let identity ← ask .ping Identity.ofFrame
  modify fun d ↦
    { d with controller :=
      { d.controller with rxRadios := identity.rxRadios, txRadios := identity.txRadios } }
  note (.identified identity)
  return identity

/-- Asks for the state of the device. -/
def status : DialogueM DeviceStatus := do
  let rxRadios := (← get).controller.rxRadios
  let status ← ask .getStatus (DeviceStatus.ofFrame rxRadios)
  note (.statusRead status)
  return status

/-- Asks how far a transmission has come. -/
def txStatus : DialogueM TxStatus := do
  let code ← ask .getTxStatus (statusByte .txStatus)
  return TxStatus.ofCode code

/-! ### Configuring and sending -/

/-- Tells a receive radio what to listen to. -/
def configRx (radio : UInt8) (channel : RxChannel) : DialogueM Unit := do
  let known := (← get).controller.rxRadios
  if known ≤ radio then
    throw (.invalidChannel radio known)
  let code ← ask (.configRx (channel.setup radio)) (statusByte .configRx)
  match ConfigRxStatus.ofCode code with
  | .done => return
  | status =>
    note (.configRxFailed radio status)
    throw (.refused (.configRx radio code))

/-- Hands a packet to the transmit radio. -/
def prepareTx (packet : TxPacket) : DialogueM Unit := do
  if (← get).controller.rxRadios < 1 then
    throw .noRxRadio
  let code ← ask (.prepareTx packet.setup) (statusByte .prepareTx)
  match PrepareTxStatus.ofCode code with
  | .ok => return
  | status =>
    note (.prepareTxFailed status)
    throw (.refused (.prepareTx code))

/-- Asks for the state of the transmission that began at `start` until it is over, every `interval`
and for as long as `limit`. Every answer uses up some of what arrives. -/
def pollTx (interval limit start : Duration) : DialogueM TxStatus := fun d ↦
  match txStatus d with
  | .error e d' => .error e d'
  | .ok status d' =>
    if status.isError then
      .error (.txFailed status) { d' with link := d'.link.note (.transmissionFailed status) }
    else if status.isTerminal then .ok status d'
    else if limit ≤ d'.link.clock - start then .error (.txPollTimeout limit) d'
    else if d'.link.pending < d.link.pending then
      pollTx interval limit start { d' with link := d'.link.pass interval }
    else .error .disconnected d'
termination_by d => d.link.pending

/-- Waits until the transmission is over. -/
def awaitTx (interval limit : Duration) : DialogueM TxStatus := do
  let start := (← get).link.clock
  pollTx interval limit start

/-! ### Receiving -/

/-- Reads `left` events, of which the first has the given index; those from index `limit` on are
dropped. -/
def drain (limit : Nat) : (index left : Nat) → DialogueM (List RxPacket)
  | _, 0 => return []
  | index, left + 1 => do
    let bytes ← receiveFrame
    if limit ≤ index then
      note (.messageDropped index)
      drain limit (index + 1) left
    else
      let frame ← ofExcept (Frame.parse bytes)
      let packet ← ofExcept (RxPacket.ofFrame frame)
      let packets ← drain limit (index + 1) left
      return packet :: packets

/-- Reads the messages that the device announced, of which at most `limit` are kept. -/
def collect (limit : Nat) (mailbox : Mailbox) : DialogueM (List RxPacket) := do
  if mailbox.messages = 0 then
    return []
  note (.messagesReceived mailbox.messages mailbox.byteTotal)
  let packets ← drain limit 0 mailbox.messages.toNat
  if mailbox.pending then
    note .messagesPending
  return packets

/-- Fetches the messages of the device, of which at most `limit` are kept. -/
def receive (limit : Nat) : DialogueM (List RxPacket) := do
  let mailbox ← ask .getRxMessages Mailbox.ofFrame
  if 0 < mailbox.lost then
    note (.messagesLost mailbox.lost)
  collect limit mailbox

/-! ### Resetting -/

/-- Resets a part of the board. -/
def reset (target : ResetTarget) : DialogueM Unit := do
  let code ← ask (.reset target) (statusByte .reset)
  if code ≠ statusOk then
    note (.resetFailed target code)
    throw (.refused (.reset target code))

/-- The time radios need after a reset. -/
def resetTime : Duration := .ofMillis 500

/-- Resets every radio, and the microcontroller when asked to. -/
def resetAll (withMcu : Bool) : DialogueM Unit := do
  reset .rxAll
  reset .tx
  if withMcu then
    reset .mcu
  pass resetTime

/-- Switches the microcontroller to its bootloader. -/
def enterBootloader : DialogueM Unit := do
  let _ ← ask .bootloader (·.expect .bootloader 0)
  note .bootloaderEntered

/-! ### Registers -/

/-- Reads a register of a radio. -/
def readRegister (radio : UInt8) (address : UInt16) : DialogueM UInt8 :=
  ask (.readRegister radio address) (statusByte .readRegister)

/-- Writes a register of a radio. -/
def writeRegister (radio : UInt8) (address : UInt16) (value : UInt8) : DialogueM Unit := do
  let _ ← ask (.writeRegister radio address value) (·.expect .writeRegister 0)

/-- Sets how the measured signal strength of a radio follows the temperature. -/
def setRssiCoefficient (radio : UInt8) (coefficient : Binary.Single) : DialogueM Unit := do
  let code ← ask (.setRssiCoefficient radio coefficient) (statusByte .setRssiCoefficient)
  if code ≠ statusOk then
    throw (.refused (.setRssiCoefficient radio code))

end LoraConcentrator.DialogueM
