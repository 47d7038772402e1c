/-!
# Request and reply codes

Every frame names what it is by one byte. Requests have the codes `0x00` to `0x0A`; the reply to a
request has the code of the request with bit six set, and the one event of the protocol, a received
message, has a code of its own.
-/

namespace LoraConcentrator

/-- The requests of the protocol. -/
inductive RequestCode
  | ping
  | configRx
  | prepareTx
  | getStatus
  | bootloader
  | getRxMessages
  | getTxStatus
  | reset
  | setRssiCoefficient
  | readRegister
  | writeRegister
  deriving DecidableEq, Repr

/-- The replies of the protocol, with the event that announces a received message. -/
inductive ReplyCode
  | ping
  | configRx
  | prepareTx
  | getStatus
  | bootloader
  | getRxMessages
  | txStatus
  | reset
  | setRssiCoefficient
  | readRegister
  | writeRegister
  | messageReceived
  deriving DecidableEq, Repr

namespace RequestCode

/-- Every value, in the order of its codes. -/
def all : List RequestCode :=
  [ping, configRx, prepareTx, getStatus, bootloader, getRxMessages, getTxStatus, reset,
    setRssiCoefficient, readRegister, writeRegister]

/-- The byte of a request. -/
def code : RequestCode → UInt8
  | ping => 0x00
  | configRx => 0x01
  | prepareTx => 0x02
  | getStatus => 0x03
  | bootloader => 0x04
  | getRxMessages => 0x05
  | getTxStatus => 0x06
  | reset => 0x07
  | setRssiCoefficient => 0x08
  | readRegister => 0x09
  | writeRegister => 0x0A

/-- The request of a byte. -/
def ofCode? (code : UInt8) : Option RequestCode :=
  all.find? fun x ↦ x.code == code

/-- The reply that answers a request. -/
def reply : RequestCode → ReplyCode
  | ping => .ping
  | configRx => .configRx
  | prepareTx => .prepareTx
  | getStatus => .getStatus
  | bootloader => .bootloader
  | getRxMessages => .getRxMessages
  | getTxStatus => .txStatus
  | reset => .reset
  | setRssiCoefficient => .setRssiCoefficient
  | readRegister => .readRegister
  | writeRegister => .writeRegister

/-- The short name of a request. -/
def name : RequestCode → String
  | ping => "Ping"
  | configRx => "ConfigRx"
  | prepareTx => "PrepareTx"
  | getStatus => "GetStatus"
  | bootloader => "Bootloader"
  | getRxMessages => "GetRxMsg"
  | getTxStatus => "GetTxStatus"
  | reset => "Reset"
  | setRssiCoefficient => "SetCoefTempRssi"
  | readRegister => "ReadRegs"
  | writeRegister => "WriteRegs"

/-- The name of a request in the device's own vocabulary. -/
def orderName : RequestCode → String
  | ping => "ORDER_ID__REQ_PING"
  | configRx => "ORDER_ID__REQ_CONFIG_RX"
  | prepareTx => "ORDER_ID__REQ_PREPARE_TX"
  | getStatus => "ORDER_ID__REQ_GET_STATUS"
  | bootloader => "ORDER_ID__REQ_BOOTLOADER_MODE"
  | getRxMessages => "ORDER_ID__REQ_GET_RX_MSG"
  | getTxStatus => "ORDER_ID__REQ_GET_TX_STATUS"
  | reset => "ORDER_ID__REQ_RESET"
  | setRssiCoefficient => "ORDER_ID__REQ_SET_COEF_TEMP_RSSI"
  | readRegister => "ORDER_ID__REQ_READ_REGS"
  | writeRegister => "ORDER_ID__REQ_WRITE_REGS"

/-- The code of a request is read back. -/
@[simp]
theorem ofCode?_code (r : RequestCode) : ofCode? r.code = some r := by
  cases r <;> decide

/-- No other number is read as a request. -/
theorem ofCode?_eq_some_iff {n : UInt8} {r : RequestCode} : ofCode? n = some r ↔ n = r.code := by
  constructor
  · intro h
    have := List.find?_some h
    exact (eq_of_beq this).symm
  · rintro rfl
    exact ofCode?_code r

end RequestCode

namespace ReplyCode

/-- Every value, in the order of its codes. -/
def all : List ReplyCode :=
  [ping, configRx, prepareTx, getStatus, bootloader, getRxMessages, txStatus, reset,
    setRssiCoefficient, readRegister, writeRegister, messageReceived]

/-- The byte of a reply. -/
def code : ReplyCode → UInt8
  | ping => 0x40
  | configRx => 0x41
  | prepareTx => 0x42
  | getStatus => 0x43
  | bootloader => 0x44
  | getRxMessages => 0x45
  | txStatus => 0x46
  | reset => 0x47
  | setRssiCoefficient => 0x48
  | readRegister => 0x49
  | writeRegister => 0x4A
  | messageReceived => 0x50

/-- The reply of a byte. -/
def ofCode? (code : UInt8) : Option ReplyCode :=
  all.find? fun x ↦ x.code == code

/-- The short name of a reply. -/
def name : ReplyCode → String
  | ping => "Ping"
  | configRx => "ConfigRx"
  | prepareTx => "PrepareTx"
  | getStatus => "GetStatus"
  | bootloader => "Bootloader"
  | getRxMessages => "GetRxMsg"
  | txStatus => "TxStatus"
  | reset => "Reset"
  | setRssiCoefficient => "SetCoefTempRssi"
  | readRegister => "ReadRegs"
  | writeRegister => "WriteRegs"
  | messageReceived => "MsgReceived"

/-- The name of a reply in the device's own vocabulary. -/
def orderName : ReplyCode → String
  | ping => "ORDER_ID__ACK_PING"
  | configRx => "ORDER_ID__ACK_CONFIG_RX"
  | prepareTx => "ORDER_ID__ACK_PREPARE_TX"
  | getStatus => "ORDER_ID__ACK_GET_STATUS"
  | bootloader => "ORDER_ID__ACK_BOOTLOADER_MODE"
  | getRxMessages => "ORDER_ID__ACK_GET_RX_MSG"
  | txStatus => "ORDER_ID__ACK_GET_TX_STATUS"
  | reset => "ORDER_ID__ACK_RESET"
  | setRssiCoefficient => "ORDER_ID__ACK_SET_COEF_TEMP_RSSI"
  | readRegister => "ORDER_ID__ACK_READ_REGS"
  | writeRegister => "ORDER_ID__ACK_WRITE_REGS"
  | messageReceived => "ORDER_ID__EVT_MSG_RECEIVED"

/-- The code of a reply is read back. -/
@[simp]
theorem ofCode?_code (r : ReplyCode) : ofCode? r.code = some r := by
  cases r <;> decide

/-- No other number is read as a reply. -/
theorem ofCode?_eq_some_iff {n : UInt8} {r : ReplyCode} : ofCode? n = some r ↔ n = r.code := by
  constructor
  · intro h
    have := List.find?_some h
    exact (eq_of_beq this).symm
  · rintro rfl
    exact ofCode?_code r

end ReplyCode

/-- The reply to a request has the code of the request with bit six set. -/
theorem RequestCode.code_reply (r : RequestCode) : r.reply.code = r.code ||| 0x40 := by
  cases r <;> decide

end LoraConcentrator
