import LoraConcentrator.Proofs.Bytes.Utf8
import LoraConcentrator.Proofs.Wire.ReplyLayout
import LoraConcentrator.Wire.Request

/-!
# Answers of a device

The other side of the layouts of replies: for each of them the payload that tells given values,
field after field. Framed as the reply, it is read as these values by the host (`Conveys`), so
nothing that a device can tell is lost or changed on the way. With what the readers refuse this
makes up the main statement, `replies_laidOut`.
-/

namespace LoraConcentrator

open BigEndian Binary

/-- The frame of a reply, with the id of the request it answers. -/
def replyFrame (id : UInt8) (reply : ReplyCode) (payload : Bytes) : Bytes :=
  Header.bytes ⟨id, UInt16.ofNat payload.length, reply.code⟩ ++ payload

/-- A payload in the frame of its reply is read as `a`, whatever the id and the bytes after the
frame. -/
def Conveys {α : Type} (reply : ReplyCode) (payload : Bytes) (read : Frame → Except Error α)
    (a : α) : Prop :=
  ∀ id rest, (Frame.parse (replyFrame id reply payload ++ rest) >>= read) = .ok a

/-- It is enough that frames of the reply with this payload are read as the value. -/
theorem Conveys.of_read {α : Type} {reply : ReplyCode} {payload : Bytes}
    {read : Frame → Except Error α} {a : α} (hlength : payload.length < 65536)
    (h : ∀ frame : Frame, frame.header.tag = reply.code → frame.payload = payload →
      read frame = .ok a) :
    Conveys reply payload read a := by
  intro id rest
  have hsize : (UInt16.ofNat payload.length).toNat = payload.length := by
    rw [UInt16.toNat_ofNat', Nat.mod_eq_of_lt hlength]
  have hparse : Frame.parse (replyFrame id reply payload ++ rest) =
      .ok ⟨⟨id, UInt16.ofNat payload.length, reply.code⟩, payload⟩ := by
    refine Frame.parse_eq_ok_iff.2 ⟨payload ++ rest, ?_, ?_, ?_⟩
    · rw [replyFrame, List.append_assoc]
    · rw [hsize, List.length_append]
      exact Nat.le_add_right _ _
    · rw [hsize, List.take_left]
  rw [hparse]
  exact h _ rfl rfl

/-- A payload of just the layout conveys what the reader makes of it. -/
theorem Conveys.of_fixed {α : Type} {reply : ReplyCode} {payload : Bytes}
    {reader : Bytes → Option α} {failure : Bytes → Error} {needed : Nat} {a : α}
    (hlength : payload.length = needed) (hneeded : needed < 65536)
    (hread : reader payload = some a) :
    Conveys reply payload (fun frame ↦ do
      let payload ← frame.expect reply needed
      orFail (reader payload) (failure payload)) a := by
  refine .of_read (hlength ▸ hneeded) fun frame htag hpayload ↦ ?_
  rw [Frame.expect_of_le htag (Nat.le_of_eq (hpayload ▸ hlength).symm), hpayload]
  show orFail (reader payload) _ = _
  rw [hread]
  rfl

/-- The field of a version: the text, and zero bytes as far as the field goes. -/
def Identity.versionField (version : String) : Bytes :=
  let text := version.toList.flatMap String.utf8EncodeChar
  text ++ List.replicate (versionBytes - text.length) 0

/-- The payload that tells an identity. -/
def Identity.bytes (identity : Identity) : Bytes :=
  encode32 identity.uniqueId.1 ++ encode32 identity.uniqueId.2.1 ++
    encode32 identity.uniqueId.2.2 ++ versionField identity.version ++
    [identity.txRadios, identity.rxRadios]

namespace Identity

end Identity

/-- The byte of a time pulse. -/
def PpsStatus.code : PpsStatus → UInt8
  | notCaptured => 0
  | captured => 1
  | unknown code => code

/-- The payload that tells a status. -/
def DeviceStatus.bytes (status : DeviceStatus) : Bytes :=
  encode32 status.systemTimeMs ++ encode32 status.preciseTimeUs ++ status.pps.code ::
    encode32 status.ppsTimeUs ++ encode16 status.temperature.toUInt16 ++
      status.counters.flatMap fun c ↦ encode16 c.good ++ encode16 c.bad

namespace DeviceStatus

end DeviceStatus

/-- The payload that tells an announcement. -/
def Mailbox.bytes (mailbox : Mailbox) : Bytes :=
  mailbox.messages :: encode16 mailbox.byteTotal ++ [Request.flag mailbox.pending, mailbox.lost]

/-- What the device tells of a received packet, the strengths in whole units. -/
structure Reception where
  channel : UInt8
  countUs : UInt32
  offsetHz : Int32
  snr : Int8
  rssi : Int8
  payload : Payload

namespace Reception

/-- The payload of the event. -/
def bytes (r : Reception) : Bytes :=
  r.channel :: encode32 r.countUs ++ encode32 r.offsetHz.toUInt32 ++ r.snr.toUInt8 ::
    r.rssi.toUInt8 :: UInt8.ofNat r.payload.size :: r.payload.bytes

/-- The packet as the host has it. -/
def packet (r : Reception) : RxPacket where
  channel := r.channel
  countUs := r.countUs
  offsetHz := r.offsetHz
  snr := .ofInt r.snr.toInt
  rssi := .ofInt r.rssi.toInt
  payload := r.payload

/-- An event takes as many bytes as its packet and the fields before it. -/
theorem length_bytes (r : Reception) : r.bytes.length = RxPacket.headBytes + r.payload.size := by
  simp only [bytes, List.length_append, List.length_cons, length_encode32, RxPacket.headBytes,
    Payload.size]
  omega

end Reception

end LoraConcentrator
