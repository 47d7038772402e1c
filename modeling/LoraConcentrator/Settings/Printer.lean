import LoraConcentrator.Bytes.Hex
import LoraConcentrator.Decimal.Layout
import LoraConcentrator.Settings.Basic

/-!
# Writing settings

Settings are written as JSON without blanks, every field in the order of its declaration.
-/

namespace LoraConcentrator

open Binary Decimal

namespace Json

/-- A character inside a string. -/
def writtenChar (c : Char) : String :=
  if c = '"' then "\\\""
  else if c = '\\' then "\\\\"
  else if c = '\x08' then "\\b"
  else if c = '\x0C' then "\\f"
  else if c = '\n' then "\\n"
  else if c = '\r' then "\\r"
  else if c = '\t' then "\\t"
  else if c < ' ' then "\\u" ++ Hex.fixed .small 4 c.toNat
  else c.toString

/-- A string in quotation marks. -/
def writtenString (s : String) : String :=
  "\"" ++ String.join (s.toList.map writtenChar) ++ "\""

/-- A boolean. -/
def writtenBool (b : Bool) : String := if b then "true" else "false"

/-- Numbers keep a point or an exponent, and are written without exponent while their first digit
stands between `10 ^ -6` and `10 ^ 12`. -/
def settingsNumber : Layout := ⟨.even, some (-6, 12), ".0", "null", "null"⟩

/-- A number of thirty-two bits; what is not finite has no number. -/
def writtenSingle (x : Single) : String :=
  match x.datum with
  | .finite .. => settingsNumber.text single x.bits.toNat
  | _ => "null"

/-- A list of written items. -/
def writtenList (items : List String) : String := "[" ++ ",".intercalate items ++ "]"

/-- A record of written fields. -/
def writtenRecord (fields : List (String × String)) : String :=
  "\x7b" ++ ",".intercalate (fields.map fun f ↦ writtenString f.1 ++ ":" ++ f.2) ++ "\x7d"

end Json

open Json

/-- A receive channel as JSON. -/
def RxChannel.written (channel : RxChannel) : String :=
  writtenRecord
    [("enable", writtenBool channel.enabled),
      ("freq_hz", toString channel.freqHz.toNat),
      ("bandwidth", toString channel.bandwidth.kilohertz.toNat),
      ("datarate", toString channel.spreading.code.toNat),
      ("rssi_offset", writtenSingle channel.rssiOffset),
      ("sync_word", toString channel.syncWord.toNat)]

/-- The transmit channel as JSON. -/
def TxChannel.written (channel : TxChannel) : String :=
  writtenRecord [("enable", writtenBool channel.enabled)]

/-- The settings of a board as JSON. -/
def BoardSettings.written (board : BoardSettings) : String :=
  writtenRecord
    [("tty_path", writtenString board.path),
      ("force_radio_1", writtenBool board.radio1First),
      ("verify_correlation_id", writtenBool board.checksIds),
      ("read_timeout_ms", toString board.readTimeoutMs.toNat),
      ("ack_timeout_ms", toString board.replyTimeoutMs.toNat),
      ("tx_poll_interval_ms", toString board.pollIntervalMs.toNat)]

/-- Settings as JSON. -/
def Settings.written (settings : Settings) : String :=
  writtenRecord
    [("board", settings.board.written),
      ("rx_channels", writtenList (settings.rxChannels.map RxChannel.written)),
      ("tx", settings.tx.written)]

end LoraConcentrator
