import LoraConcentrator.Json.Problem
import LoraConcentrator.Time
import LoraConcentrator.Wire.Code
import LoraConcentrator.Wire.Status

/-!
# Errors

Every operation of the library fails with one of these causes. They fall into five families:
failures of the link, frames that cannot be read, replies that do not answer the request, refusals
by the device, and uses of the library found wrong before a byte is written. Only the first three
leave the link in the middle of a frame (`Error.desynchronizes`). `Error.message` has the wording
for a person, `Error.inspect` shows the cause with all its fields.
-/

namespace LoraConcentrator

/-! ### Failures of the system underneath -/

/-- Kinds of failure the operating system reports. -/
inductive IoKind
  | timedOut
  | interrupted
  | brokenPipe
  | unexpectedEof
  | wouldBlock
  | notConnected
  | permissionDenied
  | other
  | writeZero
  | notFound
  | invalidData
  | invalidInput
  | invalidName
  | isDirectory
  | notDirectory
  deriving DecidableEq, Repr

namespace IoKind

/-- Every kind. -/
def all : List IoKind :=
  [timedOut, interrupted, brokenPipe, unexpectedEof, wouldBlock, notConnected, permissionDenied,
    other, writeZero, notFound, invalidData, invalidInput, invalidName, isDirectory, notDirectory]

/-- The name of a kind. -/
def name : IoKind → String
  | timedOut => "TimedOut"
  | interrupted => "Interrupted"
  | brokenPipe => "BrokenPipe"
  | unexpectedEof => "UnexpectedEof"
  | wouldBlock => "WouldBlock"
  | notConnected => "NotConnected"
  | permissionDenied => "PermissionDenied"
  | other => "Other"
  | writeZero => "WriteZero"
  | notFound => "NotFound"
  | invalidData => "InvalidData"
  | invalidInput => "InvalidInput"
  | invalidName => "InvalidFilename"
  | isDirectory => "IsADirectory"
  | notDirectory => "NotADirectory"

/-- The kind of a name. -/
def ofName? (name : String) : Option IoKind :=
  all.find? fun kind ↦ kind.name == name

end IoKind

/-- A failure of the operating system with its own words. -/
structure IoFailure where
  kind : IoKind
  text : String
  deriving DecidableEq, Repr

/-- Kinds of failure of a serial port. -/
inductive PortFailureKind
  | noDevice
  | unknown
  | io (kind : IoKind)
  deriving DecidableEq, Repr

/-- The name of a kind. -/
def PortFailureKind.name : PortFailureKind → String
  | noDevice => "NoDevice"
  | unknown => "Unknown"
  | io kind => Text.wrapped "Io" kind.name

/-- A failure to set up a serial port. -/
structure PortFailure where
  kind : PortFailureKind
  description : String
  deriving DecidableEq, Repr

/-! ### Refusals by the device -/

/-- A reply in good order whose status byte refuses the request. -/
inductive Refusal
  | configRx (radio code : UInt8)
  | prepareTx (code : UInt8)
  | reset (target : ResetTarget) (code : UInt8)
  | setRssiCoefficient (radio code : UInt8)
  deriving DecidableEq, Repr

namespace Refusal

/-- The refusal in words. -/
def message : Refusal → String
  | configRx radio code =>
    "CONFIG_RX of radio #" ++ toString radio.toNat ++ " rejected with 0x" ++ Hex.upper8 code
  | prepareTx code => "PREPARE_TX rejected with 0x" ++ Hex.upper8 code
  | reset target code => "RESET (" ++ target.name ++ ") rejected with 0x" ++ Hex.upper8 code
  | setRssiCoefficient radio code =>
    "SET_COEF_TEMP_RSSI of radio #" ++ toString radio.toNat ++ " rejected with 0x" ++
      Hex.upper8 code

/-- The refusal with all its fields. -/
def inspect : Refusal → String
  | configRx radio code =>
    Text.fields "ConfigRx" [("radio", toString radio.toNat), ("code", toString code.toNat)]
  | prepareTx code => Text.fields "PrepareTx" [("code", toString code.toNat)]
  | reset target code =>
    Text.fields "Reset" [("kind", target.name), ("code", toString code.toNat)]
  | setRssiCoefficient radio code =>
    Text.fields "SetCoefTempRssi" [("radio", toString radio.toNat), ("code", toString code.toNat)]

end Refusal

/-- The tables a byte can be missing from. -/
inductive CodeTable
  | request
  | reply
  | resetTarget
  deriving DecidableEq, Repr

/-- The name of a table. -/
def CodeTable.name : CodeTable → String
  | request => "request"
  | reply => "acknowledgement"
  | resetTarget => "reset type"

/-! ### Causes -/

/-- Why an operation failed. -/
inductive Error
  /-- Reading from or writing to the link failed. -/
  | io (failure : IoFailure)
  /-- The serial port cannot be set up. -/
  | port (failure : PortFailure)
  /-- The link ended where a frame was expected. -/
  | disconnected
  /-- A read was cut short. -/
  | interrupted
  /-- A frame is longer than the buffer it is read into. -/
  | replyTooLarge (declared capacity : Nat)
  /-- A request payload is longer than any frame. -/
  | requestTooLarge (length capacity : Nat)
  /-- A reply has fewer bytes than its layout. -/
  | malformedReply (reply : ReplyCode) (length needed : Nat)
  /-- A frame does not have the tag of the expected reply. -/
  | unexpectedReply (expected : ReplyCode) (actual : UInt8)
  /-- A reply does not carry the correlation id of its request. -/
  | idMismatch (expected actual : UInt8)
  /-- A request has fewer bytes than its layout. -/
  | malformedRequest (request : RequestCode) (length needed : Nat)
  /-- A byte is not in the table it was looked up in. -/
  | unknownCode (table : CodeTable) (code : UInt8)
  /-- The device refused the request. -/
  | refused (refusal : Refusal)
  /-- The transmission ended without success. -/
  | txFailed (status : TxStatus)
  /-- The transmission was not over in time. -/
  | txPollTimeout (limit : Duration)
  /-- The device runs a firmware the library does not speak to. -/
  | firmwareMismatch (expected actual : String)
  | alreadyStarted
  | notStarted
  /-- No device path is set. -/
  | boardNotConfigured
  /-- No receive radio is known yet. -/
  | noRxRadio
  /-- A radio or channel is not among those there are. -/
  | invalidChannel (index available : UInt8)
  /-- Radio 1 has to be configured and its channel is disabled. -/
  | radio1Disabled
  | payloadTooLong (length : Nat)
  | invalidCodingRate (code : UInt8)
  | invalidBandwidth (value : UInt16)
  | invalidSpreadingFactor (value : UInt8)
  /-- A settings text cannot be used. -/
  | settings (problem : Json.Problem)
  deriving DecidableEq, Repr

namespace Error

/-- Whether the error leaves the link at a place that may not be the boundary of a frame. -/
def desynchronizes : Error → Bool
  | io _ | port _ | disconnected | interrupted | replyTooLarge .. | malformedReply ..
  | unexpectedReply .. | idMismatch .. => true
  | requestTooLarge .. | malformedRequest .. | unknownCode .. | refused _ | txFailed _
  | txPollTimeout _ | firmwareMismatch .. | alreadyStarted | notStarted | boardNotConfigured
  | noRxRadio | invalidChannel .. | radio1Disabled | payloadTooLong _ | invalidCodingRate _
  | invalidBandwidth _ | invalidSpreadingFactor _ | settings _ => false

/-- The error in words. -/
def message : Error → String
  | io failure => "IO error: " ++ failure.text
  | port failure => "Serial port error: " ++ failure.description
  | disconnected => "Serial link closed while reading a frame"
  | interrupted => "Read was interrupted, frame position is lost"
  | replyTooLarge declared capacity =>
    "Acknowledgement of " ++ toString declared ++ " bytes does not fit the " ++
      toString capacity ++ " bytes buffer"
  | requestTooLarge length capacity =>
    "Request payload of " ++ toString length ++ " bytes exceeds the " ++ toString capacity ++
      " bytes buffer"
  | malformedReply reply length needed =>
    "Acknowledgement " ++ reply.name ++ " carries " ++ toString length ++
      " payload bytes, layout needs " ++ toString needed
  | unexpectedReply expected actual =>
    "Wrong acknowledgement type (expected: 0x" ++ Hex.upper8 expected.code ++ ", got: 0x" ++
      Hex.upper8 actual ++ ")"
  | idMismatch expected actual =>
    "Acknowledgement id 0x" ++ Hex.upper8 actual ++ " does not match request id 0x" ++
      Hex.upper8 expected
  | malformedRequest request length needed =>
    "Request " ++ request.name ++ " carries " ++ toString length ++
      " payload bytes, layout needs " ++ toString needed
  | unknownCode table code => "Unknown " ++ table.name ++ " code 0x" ++ Hex.upper8 code
  | refused refusal => refusal.message
  | txFailed status => "Transmission ended with status " ++ status.name
  | txPollTimeout limit =>
    "Transmission did not reach a terminal status within " ++ limit.text
  | firmwareMismatch expected actual =>
    "MCU version mismatch (expected: " ++ expected ++ ", got: " ++ actual ++ ")"
  | alreadyStarted => "Concentrator is already running"
  | notStarted => "Concentrator is not running"
  | boardNotConfigured => "Board is not configured, no TTY path set"
  | noRxRadio => "No RX radio known, ping the concentrator first"
  | invalidChannel index available =>
    "Invalid channel " ++ toString index.toNat ++ " (" ++ toString available.toNat ++
      " radios available)"
  | radio1Disabled => "Channel 1 cannot be disabled (radio #1 needs to be configured)"
  | payloadTooLong length => "Payload of " ++ toString length ++ " bytes is too long"
  | invalidCodingRate code => "Invalid coding rate 0x" ++ Hex.upper8 code
  | invalidBandwidth value => "Invalid bandwidth " ++ toString value.toNat
  | invalidSpreadingFactor value => "Invalid spreading factor " ++ toString value.toNat
  | settings problem => "Configuration error: " ++ problem.text

/-- The error with all its fields. -/
def inspect : Error → String
  | io failure =>
    Text.wrapped "Io" <| Text.fields "Custom"
      [("kind", failure.kind.name), ("error", Text.quoted failure.text)]
  | port failure =>
    Text.wrapped "Serial" <| Text.fields "Error"
      [("kind", failure.kind.name), ("description", Text.quoted failure.description)]
  | disconnected => "Disconnected"
  | interrupted => "Interrupted"
  | replyTooLarge declared capacity =>
    Text.fields "AckTooLarge" [("declared", toString declared), ("capacity", toString capacity)]
  | requestTooLarge length capacity =>
    Text.fields "RequestTooLarge" [("len", toString length), ("capacity", toString capacity)]
  | malformedReply reply length needed =>
    Text.fields "MalformedAck"
      [("ack", reply.name), ("len", toString length), ("needed", toString needed)]
  | unexpectedReply expected actual =>
    Text.fields "UnexpectedAck"
      [("expected", expected.name), ("actual", toString actual.toNat)]
  | idMismatch expected actual =>
    Text.fields "CorrelationMismatch"
      [("expected", toString expected.toNat), ("actual", toString actual.toNat)]
  | malformedRequest request length needed =>
    Text.fields "MalformedRequest"
      [("request", request.name), ("len", toString length), ("needed", toString needed)]
  | unknownCode table code =>
    Text.fields "UnknownCode"
      [("what", Text.quoted table.name), ("code", toString code.toNat)]
  | refused refusal => Text.wrapped "Rejected" refusal.inspect
  | txFailed status => Text.wrapped "TxFailed" status.name
  | txPollTimeout limit => Text.wrapped "TxPollTimeout" limit.text
  | firmwareMismatch expected actual =>
    Text.fields "FirmwareMismatch"
      [("expected", Text.quoted expected), ("actual", Text.quoted actual)]
  | alreadyStarted => "AlreadyStarted"
  | notStarted => "NotStarted"
  | boardNotConfigured => "BoardNotConfigured"
  | noRxRadio => "NoRxRadio"
  | invalidChannel index available =>
    Text.fields "InvalidChannel"
      [("index", toString index.toNat), ("available", toString available.toNat)]
  | radio1Disabled => "Radio1Disabled"
  | payloadTooLong length => Text.wrapped "PayloadTooLong" (toString length)
  | invalidCodingRate code => Text.wrapped "InvalidCodingRate" (toString code.toNat)
  | invalidBandwidth value => Text.wrapped "InvalidBandwidth" (toString value.toNat)
  | invalidSpreadingFactor value =>
    Text.wrapped "InvalidSpreadingFactor" (toString value.toNat)
  | settings problem =>
    Text.wrapped "Config" (Text.wrapped "Error" (Text.quoted problem.text))

end Error

/-! ### Looking values up -/

/-- The value of an optional look-up, or the error that says what is missing. -/
def orFail {α : Type} (found : Option α) (error : Error) : Except Error α :=
  match found with
  | some a => .ok a
  | none => .error error

/-- A value that is found is given. -/
theorem orFail_eq_ok_iff {α : Type} {found : Option α} {error : Error} {a : α} :
    orFail found error = .ok a ↔ found = some a := by
  cases found <;> simp [orFail]

theorem orFail_eq_error_iff {α : Type} {found : Option α} {error e : Error} :
    orFail found error = .error e ↔ found = none ∧ error = e := by
  cases found <;> simp [orFail]

/-- The request of a byte. -/
def RequestCode.ofCode (code : UInt8) : Except Error RequestCode :=
  orFail (ofCode? code) (.unknownCode .request code)

/-- The reply of a byte. -/
def ReplyCode.ofCode (code : UInt8) : Except Error ReplyCode :=
  orFail (ofCode? code) (.unknownCode .reply code)

/-- The reset target of a byte. -/
def ResetTarget.ofCode (code : UInt8) : Except Error ResetTarget :=
  orFail (ofCode? code) (.unknownCode .resetTarget code)

/-- The byte of a reset target; a radio no board has is an invalid channel. -/
def ResetTarget.code : ResetTarget → Except Error UInt8
  | rx radio =>
    orFail (rx radio).code? (.invalidChannel radio (UInt8.ofNat rxChannelCount))
  | rxAll => .ok 3
  | tx => .ok 4
  | mcu => .ok 5

/-- A target has a code or an error in its place. -/
theorem ResetTarget.code_eq_ok_iff {target : ResetTarget} {n : UInt8} :
    target.code = .ok n ↔ target.code? = some n := by
  cases target with
  | rx radio => exact orFail_eq_ok_iff
  | rxAll | tx | mcu => simp [code, code?]

/-- The bandwidth of a code. -/
def Bandwidth.ofCode (code : UInt8) : Except Error Bandwidth :=
  orFail (ofCode? code) (.invalidBandwidth code.toUInt16)

/-- The bandwidth of a number of kilohertz. -/
def Bandwidth.ofKilohertz (n : UInt16) : Except Error Bandwidth :=
  orFail (ofKilohertz? n) (.invalidBandwidth n)

/-- The spreading factor of a code. -/
def SpreadingFactor.ofCode (code : UInt8) : Except Error SpreadingFactor :=
  orFail (ofCode? code) (.invalidSpreadingFactor code)

/-- The coding rate of a number. -/
def CodingRate.ofCode (code : UInt8) : Except Error CodingRate :=
  orFail (ofCode? code) (.invalidCodingRate code)

/-- The coding rate of a code in a request. -/
def CodingRate.ofWireCode (code : UInt8) : Except Error CodingRate :=
  orFail (ofWireCode? code) (.invalidCodingRate code)

/-- The payload of a byte string. -/
def Payload.ofBytes (bs : Bytes) : Except Error Payload :=
  orFail (ofBytes? bs) (.payloadTooLong bs.length)

end LoraConcentrator
