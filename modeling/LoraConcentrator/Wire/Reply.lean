import LoraConcentrator.Bytes.Utf8
import LoraConcentrator.Wire.Frame

/-!
# Replies and events

What the device answers, read off the payload of a frame. Every reader first asks for its own tag
and for the bytes of its layout (`Frame.expect`); two layouts have a part of variable length, which
is announced by a byte of the payload or follows from the number of radios known. Bytes after the
layout are ignored.
-/

namespace LoraConcentrator

open Binary

/-! ### Identity -/

/-- What the device says of itself. -/
structure Identity where
  uniqueId : UInt32 × UInt32 × UInt32
  /-- The version with the letter in front of it. -/
  version : String
  txRadios : UInt8
  rxRadios : UInt8
  deriving DecidableEq, Repr

namespace Identity

/-- The payload bytes of the layout. -/
def byteCount : Nat := 23

/-- The number of bytes of the version field. -/
def versionBytes : Nat := 9

/-- The version: the bytes of its field up to the first zero byte, as text. -/
def versionText (field : Bytes) : String :=
  String.ofList (Utf8.decodeLossy (field.takeWhile (· != 0)))

/-- The identity in a payload, if there are bytes enough. -/
def read? : Bytes → Option Identity
  | a3 :: a2 :: a1 :: a0 :: b3 :: b2 :: b1 :: b0 :: c3 :: c2 :: c1 :: c0 :: rest =>
    match rest.drop versionBytes with
    | tx :: rx :: _ =>
      some
        { uniqueId := (BigEndian.decode32 a3 a2 a1 a0, BigEndian.decode32 b3 b2 b1 b0,
            BigEndian.decode32 c3 c2 c1 c0)
          version := versionText (rest.take versionBytes)
          txRadios := tx
          rxRadios := rx }
    | _ => none
  | _ => none

/-- The identity in a frame. -/
def ofFrame (frame : Frame) : Except Error Identity := do
  let payload ← frame.expect .ping byteCount
  orFail (read? payload) (.malformedReply .ping payload.length byteCount)

/-- The version without the letter in front of it: what follows the first byte of the text, and
nothing when the first character is longer than a byte. -/
def firmware (identity : Identity) : String :=
  match identity.version.toList with
  | first :: rest => if first.utf8Size = 1 then String.ofList rest else ""
  | [] => ""

/-- The identifier of the device: the sum of the outer words of the unique id, without carry, before
the middle word. -/
def eui (identity : Identity) : UInt64 :=
  let (high, middle, low) := identity.uniqueId
  ((high + low).toUInt64 <<< 32) ||| middle.toUInt64

end Identity

/-! ### Status -/

/-- What a receive radio counted. -/
structure CrcCounters where
  good : UInt16
  bad : UInt16
  deriving DecidableEq, Repr

/-- The state of the device. -/
structure DeviceStatus where
  systemTimeMs : UInt32
  preciseTimeUs : UInt32
  pps : PpsStatus
  ppsTimeUs : UInt32
  /-- Hundredths of a degree Celsius. -/
  temperature : Int16
  counters : List CrcCounters
  deriving DecidableEq, Repr

namespace DeviceStatus

/-- The payload bytes before the counters. -/
def headBytes : Nat := 15

/-- The bytes of a radio's counters. -/
def counterBytes : Nat := 4

/-- The radios whose counters are read, of the number of radios known. -/
def radioCount (rxRadios : UInt8) : Nat := min rxRadios.toNat rxChannelCount

/-- The payload bytes of the layout. -/
def byteCount (rxRadios : UInt8) : Nat := headBytes + counterBytes * radioCount rxRadios

/-- The counters of the first radios. -/
def readCounters : (radios : Nat) → Bytes → List CrcCounters
  | radios + 1, g1 :: g0 :: b1 :: b0 :: rest =>
    ⟨BigEndian.decode16 g1 g0, BigEndian.decode16 b1 b0⟩ :: readCounters radios rest
  | _, _ => []

/-- The status in a payload, if there are bytes enough for what precedes the counters. -/
def read? (rxRadios : UInt8) : Bytes → Option DeviceStatus
  | s3 :: s2 :: s1 :: s0 :: p3 :: p2 :: p1 :: p0 :: pps :: t3 :: t2 :: t1 :: t0 :: c1 :: c0 ::
      rest =>
    some
      { systemTimeMs := BigEndian.decode32 s3 s2 s1 s0
        preciseTimeUs := BigEndian.decode32 p3 p2 p1 p0
        pps := PpsStatus.ofCode pps
        ppsTimeUs := BigEndian.decode32 t3 t2 t1 t0
        temperature := (BigEndian.decode16 c1 c0).toInt16
        counters := readCounters (radioCount rxRadios) rest }
  | _ => none

/-- The status in a frame, for a device with that many receive radios. -/
def ofFrame (rxRadios : UInt8) (frame : Frame) : Except Error DeviceStatus := do
  let payload ← frame.expect .getStatus (byteCount rxRadios)
  orFail (read? rxRadios payload)
    (.malformedReply .getStatus payload.length (byteCount rxRadios))

/-- The temperature in degrees. -/
def celsius (status : DeviceStatus) : Single := .ofHundredths status.temperature.toInt

end DeviceStatus

/-! ### Received messages -/

/-- What the device holds for the host. -/
structure Mailbox where
  messages : UInt8
  byteTotal : UInt16
  /-- More messages wait in the device than it announces. -/
  pending : Bool
  lost : UInt8
  deriving DecidableEq, Repr

namespace Mailbox

/-- The payload bytes of the layout. -/
def byteCount : Nat := 5

/-- The announcement in a payload, if there are bytes enough. -/
def read? : Bytes → Option Mailbox
  | messages :: b1 :: b0 :: pending :: lost :: _ =>
    some ⟨messages, BigEndian.decode16 b1 b0, pending != 0, lost⟩
  | _ => none

/-- The announcement in a frame. -/
def ofFrame (frame : Frame) : Except Error Mailbox := do
  let payload ← frame.expect .getRxMessages byteCount
  orFail (read? payload) (.malformedReply .getRxMessages payload.length byteCount)

end Mailbox

namespace RxPacket

/-- The payload bytes before the packet's own payload. -/
def headBytes : Nat := 12

/-- The fields before the packet's payload, with the size they announce and the bytes after them. -/
def readHead? : Bytes → Option (RxPacket × Nat × Bytes)
  | channel :: c3 :: c2 :: c1 :: c0 :: f3 :: f2 :: f1 :: f0 :: snr :: rssi :: size :: rest =>
    some
      ({ channel := channel
         countUs := BigEndian.decode32 c3 c2 c1 c0
         offsetHz := (BigEndian.decode32 f3 f2 f1 f0).toInt32
         snr := .ofInt snr.toInt8.toInt
         rssi := .ofInt rssi.toInt8.toInt }, size.toNat, rest)
  | _ => none

/-- The packet in an event frame. -/
def ofFrame (frame : Frame) : Except Error RxPacket := do
  let payload ← frame.expect .messageReceived headBytes
  let (packet, size, rest) ←
    orFail (readHead? payload) (.malformedReply .messageReceived payload.length headBytes)
  let _ ← frame.expect .messageReceived (headBytes + size)
  let body ← Payload.ofBytes (rest.take size)
  return { packet with payload := body }

end RxPacket

/-! ### Status bytes -/

/-- The first payload byte of a reply. -/
def statusByte (reply : ReplyCode) (frame : Frame) : Except Error UInt8 := do
  let payload ← frame.expect reply 1
  orFail payload.head? (.malformedReply reply payload.length 1)

end LoraConcentrator
