import LoraConcentrator.Wire.Reply

/-!
# Notices

The library reports what it does as notices: values with a severity, not texts. `Notice.text` has
the wording of all of them and `Notice.origin` the heading that the severe ones are filed under.
-/

namespace LoraConcentrator

open Binary

/-- How much a notice matters, from what a user must see to what only a trace needs. -/
inductive Severity
  | error
  | warn
  | info
  | debug
  | trace
  deriving DecidableEq, Repr

namespace Severity

/-- The rank of a severity, zero for the gravest. -/
def rank : Severity → Nat
  | error => 0
  | warn => 1
  | info => 2
  | debug => 3
  | trace => 4

/-- The label of a severity. -/
def label : Severity → String
  | error => "ERROR"
  | warn => "WARN"
  | info => "INFO"
  | debug => "DEBUG"
  | trace => "TRACE"

end Severity

/-- What the library reports. -/
inductive Notice
  /-- A request is about to be written. -/
  | request (code : RequestCode) (id : UInt8) (size : Nat)
  | bytesOut (frame : Bytes)
  /-- A reply was read. -/
  | reply (tag id : UInt8) (size : Nat)
  | bytesIn (frame : Bytes)
  | stillWaiting (elapsed : Duration)
  | interruptedWaiting
  | interruptedReading (done total : Nat)
  | replyTooLarge (declared capacity : Nat)
  | identified (identity : Identity)
  | statusRead (status : DeviceStatus)
  | configRxFailed (radio : UInt8) (status : ConfigRxStatus)
  | prepareTxFailed (status : PrepareTxStatus)
  | transmissionFailed (status : TxStatus)
  | messagesLost (count : UInt8)
  | messagesReceived (count : UInt8) (byteTotal : UInt16)
  | messageDropped (index : Nat)
  | messagesPending
  | resetFailed (target : ResetTarget) (code : UInt8)
  | bootloaderEntered
  | sessionRunning
  | boardConfigured (path : String)
  | channelEnabled (index : UInt8) (channel : RxChannel)
  | channelDisabled (index : UInt8)
  | firmwareMismatch (expected actual : String)
  | firmwareAccepted (version : String)
  | euiRead (eui : UInt64)
  | radio1Disabled
  | radioConfigured (radio : Nat) (channel : RxChannel)
  | sessionStarted
  | sessionAlreadyStopped
  | rxResetFailed (error : Error)
  | txResetFailed (error : Error)
  | sessionStopped
  | radioCounters (radio : Nat) (counters : CrcCounters)
  | unknownChannel (channel : UInt8)
  | sending (packet : TxPacket)
  | unknownTxStatus (code : UInt8)
  | portFailed (path : String) (description : String)
  | portOpened (path : String)
  | portClosed (path : String)
  deriving DecidableEq, Repr

namespace Notice

/-- The speed of a serial port in baud. -/
def baudRate : Nat := 115200

/-- How much a notice matters. -/
def severity : Notice → Severity
  | sessionRunning | firmwareMismatch .. | radio1Disabled | portFailed .. => .error
  | interruptedWaiting | interruptedReading .. | replyTooLarge .. | configRxFailed ..
  | prepareTxFailed _ | transmissionFailed _ | messagesLost _ | messageDropped _ | resetFailed ..
  | rxResetFailed _ | txResetFailed _ | unknownChannel _ | unknownTxStatus _ => .warn
  | messagesPending | bootloaderEntered | firmwareAccepted _ | radioConfigured ..
  | sessionStarted | sessionStopped => .info
  | request .. | reply .. | identified _ | statusRead _ | messagesReceived .. | boardConfigured _
  | channelEnabled .. | channelDisabled _ | euiRead _ | sessionAlreadyStopped | radioCounters ..
  | sending _ | portOpened _ | portClosed _ => .debug
  | bytesOut _ | bytesIn _ | stillWaiting _ => .trace

/-- The heading that a severe notice is filed under. -/
def origin : Notice → String
  | portFailed .. | portOpened _ | portClosed _ => "loragw_serial::transport"
  | _ => "loragw_serial::hal"

/-- What a channel listens to, in words. -/
def tuning (channel : RxChannel) : String :=
  toString channel.freqHz.toNat ++ " Hz, " ++ toString channel.bandwidth.kilohertz.toNat ++
    " kHz, SF" ++ toString channel.spreading.bits

/-- A word in eight capitals. -/
def word (n : UInt32) : String := Hex.fixed .capitals 8 n.toNat

/-- The notice in words. -/
def text : Notice → String
  | request code id size =>
    "--> " ++ code.orderName ++ " (id: 0x" ++ Hex.upper8 id ++ ", size: " ++ toString size ++ ")"
  | bytesOut frame => "--> " ++ Hex.ofBytes frame
  | reply tag id size =>
    "<-- 0x" ++ Hex.upper8 tag ++ " (id: 0x" ++ Hex.upper8 id ++ ", size: " ++ toString size ++ ")"
  | bytesIn frame => "<-- " ++ Hex.ofBytes frame
  | stillWaiting elapsed => "still waiting for an answer after " ++ elapsed.text
  | interruptedWaiting => "read interrupted while waiting for an answer"
  | interruptedReading done total =>
    "read interrupted after " ++ toString done ++ " of " ++ toString total ++ " bytes"
  | replyTooLarge declared capacity =>
    "acknowledgement of " ++ toString declared ++ " bytes does not fit the " ++
      toString capacity ++ " bytes buffer"
  | identified identity =>
    "MCU unique id: " ++ word identity.uniqueId.1 ++ word identity.uniqueId.2.1 ++
      word identity.uniqueId.2.2 ++ ", version: " ++ identity.version ++ ", " ++
      toString identity.txRadios.toNat ++ " TX / " ++ toString identity.rxRadios.toNat ++
      " RX radios"
  | statusRead status =>
    "MCU status: sys_time: " ++ toString status.systemTimeMs.toNat ++ " ms, precise_time: " ++
      toString status.preciseTimeUs.toNat ++ " us, pps: " ++ status.pps.name ++ " (" ++
      toString status.ppsTimeUs.toNat ++ " us), temperature: " ++
      Decimal.fixed 2 single status.celsius.bits.toNat ++ " C"
  | configRxFailed radio status =>
    "CONFIG_RX of radio " ++ toString radio.toNat ++ " failed: " ++ status.name
  | prepareTxFailed status => "PREPARE_TX failed: " ++ status.name
  | transmissionFailed status => "transmission failed: " ++ status.name
  | messagesLost count => toString count.toNat ++ " messages lost by the MCU"
  | messagesReceived count byteTotal =>
    toString count.toNat ++ " messages received (" ++ toString byteTotal.toNat ++ " bytes)"
  | messageDropped index =>
    "no room left for message " ++ toString index ++ ", dropping it"
  | messagesPending => "more messages pending in the MCU"
  | resetFailed target code =>
    "reset " ++ target.name ++ " failed with 0x" ++ Hex.upper8 code
  | bootloaderEntered => "MCU switched to bootloader mode"
  | sessionRunning => "concentrator is running, stop it before changing the configuration"
  | boardConfigured path => "board configured on " ++ path
  | channelEnabled index channel =>
    "RX channel " ++ toString index.toNat ++ " enabled: " ++ tuning channel
  | channelDisabled index => "RX channel " ++ toString index.toNat ++ " disabled"
  | firmwareMismatch expected actual =>
    "MCU version mismatch (expected: " ++ expected ++ ", got: " ++ actual ++ ")"
  | firmwareAccepted version => "concentrator MCU version: " ++ version
  | euiRead eui => "concentrator EUI: 0x" ++ Hex.fixed .capitals 16 eui.toNat
  | radio1Disabled => "channel 1 cannot be disabled (radio #1 needs to be configured)"
  | radioConfigured radio channel =>
    "configuring radio " ++ toString radio ++ ": " ++ tuning channel
  | sessionStarted => "concentrator started"
  | sessionAlreadyStopped => "concentrator already stopped"
  | rxResetFailed error => "failed to reset RX radios: " ++ error.message
  | txResetFailed error => "failed to reset TX radio: " ++ error.message
  | sessionStopped => "concentrator stopped"
  | radioCounters radio counters =>
    "radio " ++ toString radio ++ ": " ++ toString counters.good.toNat ++ " CRC OK, " ++
      toString counters.bad.toNat ++ " CRC errors"
  | unknownChannel channel => "packet received on unknown channel " ++ toString channel.toNat
  | sending packet =>
    "sending " ++ toString packet.payload.size ++ " bytes on " ++
      toString packet.freqHz.toNat ++ " Hz, SF" ++ toString packet.spreading.bits ++ ", " ++
      toString packet.bandwidth.kilohertz.toNat ++ " kHz, " ++ toString packet.power.toInt ++
      " dBm"
  | unknownTxStatus code => "unknown TX status 0x" ++ Hex.upper8 code
  | portFailed path description =>
    "failed to open serial port " ++ path ++ ": " ++ description
  | portOpened path =>
    "serial port " ++ path ++ " opened at " ++ toString baudRate ++ " baud"
  | portClosed path => "closing serial port " ++ path

end Notice

end LoraConcentrator
