import LoraConcentrator.Bytes.Utf8
import LoraConcentrator.Error
import LoraConcentrator.Json.Record
import LoraConcentrator.Settings.Basic

/-!
# Reading settings

Settings are written as JSON. Only the path of the board and, for each channel, its frequency,
bandwidth and spreading factor must be there. A text that lists more channels than there are radios
is read to its end before it is refused.
-/

namespace LoraConcentrator

open Json

/-- Reads a bandwidth in kilohertz. -/
def Bandwidth.reader : Reader Bandwidth := do
  let n ← Reader.natural 16
  match ofKilohertz? (UInt16.ofNat n) with
  | some bandwidth => return bandwidth
  | none => Reader.misfit (.bandwidth (UInt16.ofNat n))

/-- Reads a spreading factor. -/
def SpreadingFactor.reader : Reader SpreadingFactor := do
  let n ← Reader.natural 8
  match ofCode? (UInt8.ofNat n) with
  | some spreading => return spreading
  | none => Reader.misfit (.spreadingFactor (UInt8.ofNat n))

/-- The record of a receive channel. -/
def RxChannel.record : Record RxChannel where
  name := "RxChannelConfig"
  blank := {}
  fields :=
    [.optional "enable" Reader.boolean fun b c ↦ { c with enabled := b },
      .required "freq_hz" (Reader.natural 32) fun n c ↦ { c with freqHz := UInt32.ofNat n },
      .required "bandwidth" Bandwidth.reader fun b c ↦ { c with bandwidth := b },
      .required "datarate" SpreadingFactor.reader fun s c ↦ { c with spreading := s },
      .optional "rssi_offset" Reader.single fun x c ↦ { c with rssiOffset := x },
      .optional "sync_word" (Reader.natural 8) fun n c ↦ { c with syncWord := UInt8.ofNat n }]

/-- The record of the transmit channel. -/
def TxChannel.record : Record TxChannel where
  name := "TxChannelConfig"
  blank := {}
  fields := [.optional "enable" Reader.boolean fun b _ ↦ ⟨b⟩]

/-- The record of the board. -/
def BoardSettings.record : Record BoardSettings where
  name := "BoardConfig"
  blank := {}
  fields :=
    [.required "tty_path" Reader.text fun s b ↦ { b with path := s },
      .optional "force_radio_1" Reader.boolean fun v b ↦ { b with radio1First := v },
      .optional "verify_correlation_id" Reader.boolean fun v b ↦ { b with checksIds := v },
      .optional "read_timeout_ms" (Reader.natural 64) fun n b ↦
        { b with readTimeoutMs := UInt64.ofNat n },
      .optional "ack_timeout_ms" (Reader.natural 64) fun n b ↦
        { b with replyTimeoutMs := UInt64.ofNat n },
      .optional "tx_poll_interval_ms" (Reader.natural 64) fun n b ↦
        { b with pollIntervalMs := UInt64.ofNat n }]

namespace Settings

/-- The record of the settings. -/
def record : Record Settings where
  name := "ConcentratorConfig"
  blank := {}
  fields :=
    [.required "board" BoardSettings.record.read fun b s ↦ { s with board := b },
      .optional "rx_channels" (Reader.list RxChannel.record.read) fun cs s ↦
        { s with rxChannels := cs },
      .optional "tx" TxChannel.record.read fun t s ↦ { s with tx := t }]

/-- The settings of a text. -/
def ofText (text : String) : Except Error Settings :=
  match record.read.ofText text with
  | .error problem => .error (.settings problem)
  | .ok settings =>
    if settings.rxChannels.length > rxChannelCount then
      .error (.invalidChannel (UInt8.ofNat (settings.rxChannels.length - 1))
        (UInt8.ofNat rxChannelCount))
    else .ok settings

/-! ### Files -/

/-- The failure to read a file that holds no text. -/
def notText : IoFailure := ⟨.invalidData, "stream did not contain valid UTF-8"⟩

/-- The settings of a file, of which the content or the failure to read it is given. -/
def ofFile (content : Except IoFailure Bytes) : Except Error Settings :=
  match content with
  | .error failure => .error (.io failure)
  | .ok bs =>
    match Utf8.decode? bs with
    | none => .error (.io notText)
    | some cs => ofText (String.ofList cs)

end Settings

end LoraConcentrator
