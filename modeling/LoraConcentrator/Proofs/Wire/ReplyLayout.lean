import LoraConcentrator.Proofs.Wire.Fields
import LoraConcentrator.Wire.Reply

/-!
# Layouts of replies and events

What the readers of replies accept, said by positions in the payload and apart from the readers. A
layout has a tag, a head of fixed length and a length of its own, which the bytes of the head may
announce; each field is a number at a place of the payload (`Identity.LaidOut`,
`DeviceStatus.LaidOut`, `Mailbox.LaidOut`, `RxPacket.LaidOut`).

Main statement, once for each reader: it reads just the layout (`ReadsLayout`). It accepts the
frames that carry it and no others, says first of what is missing that the tag is, then the head,
then the rest, takes every field from its place, and does not look at what comes after. Likewise a
byte string is a frame just where it holds what its header announces (`Frame.exists_parse_iff`).
-/

namespace LoraConcentrator

open BigEndian Binary

/-! ### Readers -/

namespace Frame

variable {frame : Frame} {reply : ReplyCode} {needed : Nat}

/-- A frame with another tag is not the reply that is expected. -/
theorem expect_of_tag_ne (h : frame.header.tag ≠ reply.code) :
    frame.expect reply needed = .error (.unexpectedReply reply frame.header.tag) :=
  if_pos h

/-- A frame with the tag may still be short of bytes. -/
theorem expect_of_lt (htag : frame.header.tag = reply.code) (h : frame.payload.length < needed) :
    frame.expect reply needed = .error (.malformedReply reply frame.payload.length needed) := by
  rw [expect, if_neg (not_not_intro htag), if_pos h]

/-- A frame with the tag and bytes enough is accepted with all its payload. -/
theorem expect_of_le (htag : frame.header.tag = reply.code) (h : needed ≤ frame.payload.length) :
    frame.expect reply needed = .ok frame.payload :=
  expect_eq_ok_iff.2 ⟨htag, h, rfl⟩

end Frame

/-- A frame carries a reply with the whole layout: it has the tag of the reply, and as many payload
bytes as the fixed part takes and as the bytes of that part announce. -/
structure Frame.Carries (reply : ReplyCode) (head : Nat) (size : Bytes → Nat) (frame : Frame) :
    Prop where
  tag_eq : frame.header.tag = reply.code
  head_le : head ≤ frame.payload.length
  size_le : size frame.payload ≤ frame.payload.length

/-- A reader reads just the layout of a reply, which takes `size` bytes and is told by its first
`head` bytes. A wrong tag comes before everything else, and bytes that are missing from the head
before bytes that are missing from the rest; on success the fields are at their places. -/
structure ReadsLayout {α : Type} (reply : ReplyCode) (head : Nat) (size : Bytes → Nat)
    (LaidOut : α → Bytes → Prop) (read : Frame → Except Error α) : Prop where
  exists_ok_iff : ∀ frame, (∃ a, read frame = .ok a) ↔ frame.Carries reply head size
  of_tag_ne : ∀ frame, frame.header.tag ≠ reply.code →
    read frame = .error (.unexpectedReply reply frame.header.tag)
  of_lt_head : ∀ frame, frame.header.tag = reply.code → frame.payload.length < head →
    read frame = .error (.malformedReply reply frame.payload.length head)
  of_lt_size : ∀ frame, frame.header.tag = reply.code → head ≤ frame.payload.length →
    frame.payload.length < size frame.payload →
      read frame = .error (.malformedReply reply frame.payload.length (size frame.payload))
  of_ok : ∀ frame a, read frame = .ok a → LaidOut a frame.payload
  of_append : ∀ frame, frame.Carries reply head size → ∀ rest,
    read { frame with payload := frame.payload.take (size frame.payload) ++ rest } = read frame

section ReadsLayout

variable {α : Type} {reply : ReplyCode} {head : Nat} {size : Bytes → Nat}
  {LaidOut : α → Bytes → Prop} {read : Frame → Except Error α}

/-- It is enough to know how a reader refuses, and what it reads off a whole layout whatever comes
after it. -/
theorem ReadsLayout.of_refuses
    (htag : ∀ frame, frame.header.tag ≠ reply.code →
      read frame = .error (.unexpectedReply reply frame.header.tag))
    (hhead : ∀ frame, frame.header.tag = reply.code → frame.payload.length < head →
      read frame = .error (.malformedReply reply frame.payload.length head))
    (hsize : ∀ frame, frame.header.tag = reply.code → head ≤ frame.payload.length →
      frame.payload.length < size frame.payload →
        read frame = .error (.malformedReply reply frame.payload.length (size frame.payload)))
    (hwhole : ∀ frame : Frame, frame.Carries reply head size → ∃ a, LaidOut a frame.payload ∧
      ∀ rest, read { frame with payload := frame.payload.take (size frame.payload) ++ rest } =
        .ok a) :
    ReadsLayout reply head size LaidOut read := by
  have hread : ∀ frame : Frame, frame.Carries reply head size → ∃ a, LaidOut a frame.payload ∧
      read frame = .ok a ∧
      ∀ rest, read { frame with payload := frame.payload.take (size frame.payload) ++ rest } =
        .ok a := by
    intro frame hcarries
    obtain ⟨a, hlaid, hall⟩ := hwhole frame hcarries
    have hself := hall (frame.payload.drop (size frame.payload))
    rw [List.take_append_drop] at hself
    exact ⟨a, hlaid, hself, hall⟩
  have hcarries : ∀ frame a, read frame = .ok a → frame.Carries reply head size := by
    intro frame a hok
    have htag' : frame.header.tag = reply.code := Decidable.of_not_not fun hne ↦ by
      cases hok.symm.trans (htag frame hne)
    have hhead' : head ≤ frame.payload.length := Nat.le_of_not_lt fun hlt ↦ by
      cases hok.symm.trans (hhead frame htag' hlt)
    refine ⟨htag', hhead', Nat.le_of_not_lt fun hlt ↦ ?_⟩
    cases hok.symm.trans (hsize frame htag' hhead' hlt)
  refine ⟨fun frame ↦ ⟨fun ⟨a, hok⟩ ↦ hcarries frame a hok, fun h ↦ ?_⟩, htag, hhead, hsize,
    fun frame a hok ↦ ?_, fun frame h rest ↦ ?_⟩
  · obtain ⟨a, -, hok, -⟩ := hread frame h
    exact ⟨a, hok⟩
  · obtain ⟨a', hlaid, hok', -⟩ := hread frame (hcarries frame a hok)
    rwa [Except.ok.inj (hok.symm.trans hok')]
  · obtain ⟨a, -, hok, hall⟩ := hread frame h
    rw [hall rest, hok]

/-- A reader of a fixed number of bytes reads just the layout if these bytes are all that it asks
for. -/
theorem ReadsLayout.of_fixed {reader : Bytes → Option α} {failure : Bytes → Error} {needed : Nat}
    (hreader : ∀ payload : Bytes, needed ≤ payload.length →
      ∃ a, LaidOut a payload ∧ ∀ rest, reader (payload.take needed ++ rest) = some a) :
    ReadsLayout reply needed (fun _ ↦ needed) LaidOut (fun frame ↦ do
      let payload ← frame.expect reply needed
      orFail (reader payload) (failure payload)) := by
  refine .of_refuses (fun frame htag ↦ ?_) (fun frame htag hlt ↦ ?_)
    (fun frame _ hle hlt ↦ absurd hlt (Nat.not_lt_of_le hle)) (fun frame hcarries ↦ ?_)
  · rw [Frame.expect_of_tag_ne htag]
    rfl
  · rw [Frame.expect_of_lt htag hlt]
    rfl
  · obtain ⟨a, hlaid, hread⟩ := hreader frame.payload hcarries.head_le
    refine ⟨a, hlaid, fun rest ↦ ?_⟩
    let cut : Frame := { frame with payload := frame.payload.take needed ++ rest }
    have hle : needed ≤ cut.payload.length := by
      rw [List.length_append, List.length_take, Nat.min_eq_left hcarries.head_le]
      exact Nat.le_add_right _ _
    have htag : cut.header.tag = reply.code := hcarries.tag_eq
    rw [Frame.expect_of_le htag hle]
    show orFail (reader (frame.payload.take needed ++ rest)) _ = _
    rw [hread rest]
    rfl

end ReadsLayout

/-! ### The layouts -/

/-- The fields of an identity stand at their places in a payload. -/
structure Identity.LaidOut (identity : Identity) (payload : Bytes) : Prop where
  first_eq : identity.uniqueId.1.toNat = valueAt payload 0 4
  middle_eq : identity.uniqueId.2.1.toNat = valueAt payload 4 4
  last_eq : identity.uniqueId.2.2.toNat = valueAt payload 8 4
  version_eq : identity.version = versionText (fieldAt payload 12 9)
  txRadios_eq : identity.txRadios = byteAt payload 21
  rxRadios_eq : identity.rxRadios = byteAt payload 22

/-- Identities are read just by their layout. -/
theorem Identity.readsLayout :
    ReadsLayout .ping byteCount (fun _ ↦ byteCount) LaidOut ofFrame := by
  refine .of_fixed fun payload h ↦ ?_
  -- Matched in two steps: the bytes are too many for the short cases to be dismissed at once.
  match payload, h with
  | a3 :: a2 :: a1 :: a0 :: b3 :: b2 :: b1 :: b0 :: c3 :: c2 :: c1 :: c0 :: more, h =>
    have hmore : 11 ≤ more.length := by
      simp only [byteCount, List.length_cons] at h
      omega
    match more, hmore with
    | v0 :: v1 :: v2 :: v3 :: v4 :: v5 :: v6 :: v7 :: v8 :: tx :: rx :: _, _ =>
      refine ⟨⟨(decode32 a3 a2 a1 a0, decode32 b3 b2 b1 b0, decode32 c3 c2 c1 c0),
        versionText [v0, v1, v2, v3, v4, v5, v6, v7, v8], tx, rx⟩, ?_, fun rest ↦ rfl⟩
      exact
        { first_eq := toNat_decode32_eq_value _ _ _ _
          middle_eq := toNat_decode32_eq_value _ _ _ _
          last_eq := toNat_decode32_eq_value _ _ _ _
          version_eq := rfl
          txRadios_eq := rfl
          rxRadios_eq := rfl }

/-- What a byte tells of a time pulse: 0 that none was captured, 1 that one was, and any other byte
nothing but itself. -/
inductive PpsStatus.ToldBy : PpsStatus → UInt8 → Prop
  | notCaptured : ToldBy notCaptured 0
  | captured : ToldBy captured 1
  | unknown {code : UInt8} : code ≠ 0 → code ≠ 1 → ToldBy (unknown code) code

/-- The reader of the byte follows the table. -/
theorem PpsStatus.toldBy_ofCode (code : UInt8) : (ofCode code).ToldBy code := by
  unfold ofCode
  split
  · rename_i hzero
    exact hzero ▸ .notCaptured
  · split
    · rename_i hone
      exact hone ▸ .captured
    · exact .unknown ‹_› ‹_›

/-- The fields of a status stand at their places in a payload, the counters of one radio after those
of another. -/
structure DeviceStatus.LaidOut (rxRadios : UInt8) (status : DeviceStatus) (payload : Bytes) :
    Prop where
  systemTimeMs_eq : status.systemTimeMs.toNat = valueAt payload 0 4
  preciseTimeUs_eq : status.preciseTimeUs.toNat = valueAt payload 4 4
  pps_toldBy : status.pps.ToldBy (byteAt payload 8)
  ppsTimeUs_eq : status.ppsTimeUs.toNat = valueAt payload 9 4
  temperature_eq : status.temperature.toInt = signedAt payload 13 2
  celsius_eq : status.celsius = .ofHundredths (signedAt payload 13 2)
  length_counters : status.counters.length = radioCount rxRadios
  counters_eq : ∀ i (h : i < status.counters.length),
    status.counters[i].good.toNat = valueAt payload (15 + 4 * i) 2 ∧
      status.counters[i].bad.toNat = valueAt payload (17 + 4 * i) 2

namespace DeviceStatus

/-- Counters are read off their bytes whatever comes after them. -/
theorem readCounters_take_append {radios : Nat} {bs : Bytes} (h : counterBytes * radios ≤ bs.length)
    (rest : Bytes) :
    readCounters radios (bs.take (counterBytes * radios) ++ rest) = readCounters radios bs := by
  induction radios generalizing bs with
  | zero => rfl
  | succ radios ih =>
    match bs, h with
    | g1 :: g0 :: b1 :: b0 :: tail, h =>
      have htail : counterBytes * radios ≤ tail.length := by
        simp only [counterBytes, List.length_cons] at h ⊢
        omega
      exact congrArg (_ :: ·) (ih htail)

/-- Where there are bytes enough, there are counters for every radio. -/
theorem length_readCounters {radios : Nat} {bs : Bytes} (h : counterBytes * radios ≤ bs.length) :
    (readCounters radios bs).length = radios := by
  induction radios generalizing bs with
  | zero => rfl
  | succ radios ih =>
    match bs, h with
    | g1 :: g0 :: b1 :: b0 :: tail, h =>
      have htail : counterBytes * radios ≤ tail.length := by
        simp only [counterBytes, List.length_cons] at h ⊢
        omega
      exact congrArg (· + 1) (ih htail)

/-- The counters of a radio are two numbers, the bad after the good. -/
theorem counters_of_readCounters {radios i : Nat} {bs : Bytes} {c : CrcCounters}
    (h : (readCounters radios bs)[i]? = some c) :
    c.good.toNat = valueAt bs (4 * i) 2 ∧ c.bad.toNat = valueAt bs (4 * i + 2) 2 := by
  induction radios generalizing i bs with
  | zero => cases h
  | succ radios ih =>
    match bs, i with
    | g1 :: g0 :: b1 :: b0 :: tail, 0 =>
      cases h
      exact ⟨toNat_decode16_eq_value _ _, toNat_decode16_eq_value _ _⟩
    | g1 :: g0 :: b1 :: b0 :: tail, i + 1 =>
      have htail : c.good.toNat = valueAt tail (4 * i) 2 ∧
          c.bad.toNat = valueAt tail (4 * i + 2) 2 := ih h
      exact htail
    | [], _ | [_], _ | [_, _], _ | [_, _, _], _ => cases h

/-- A status is read just by its layout, which depends on the number of radios known. -/
theorem readsLayout (rxRadios : UInt8) :
    ReadsLayout .getStatus (byteCount rxRadios) (fun _ ↦ byteCount rxRadios) (LaidOut rxRadios)
      (ofFrame rxRadios) := by
  refine .of_fixed fun payload h ↦ ?_
  have hcounters : counterBytes * radioCount rxRadios ≤ payload.length - 15 := by
    rw [byteCount, headBytes] at h
    omega
  have hhead : 15 ≤ payload.length := by
    rw [byteCount, headBytes] at h
    omega
  match payload, hhead, hcounters with
  | s3 :: s2 :: s1 :: s0 :: p3 :: p2 :: p1 :: p0 :: pps :: t3 :: t2 :: t1 :: t0 :: c1 :: c0 ::
      tail, _, hcounters =>
    have hlength := length_readCounters hcounters
    refine ⟨⟨decode32 s3 s2 s1 s0, decode32 p3 p2 p1 p0, .ofCode pps, decode32 t3 t2 t1 t0,
      (decode16 c1 c0).toInt16, readCounters (radioCount rxRadios) tail⟩, ?_, fun rest ↦ ?_⟩
    · exact
        { systemTimeMs_eq := toNat_decode32_eq_value _ _ _ _
          preciseTimeUs_eq := toNat_decode32_eq_value _ _ _ _
          pps_toldBy := PpsStatus.toldBy_ofCode pps
          ppsTimeUs_eq := toNat_decode32_eq_value _ _ _ _
          temperature_eq := toInt_decode16_eq_bmod _ _
          celsius_eq := congrArg Single.ofHundredths (toInt_decode16_eq_bmod _ _)
          length_counters := hlength
          counters_eq := fun i hi ↦ by
            rw [Nat.add_comm 15, Nat.add_comm 17]
            exact counters_of_readCounters (List.getElem?_eq_getElem hi) }
    · rw [← readCounters_take_append hcounters rest, byteCount, Nat.add_comm headBytes]
      rfl

end DeviceStatus

/-- The fields of an announcement stand at their places in a payload. -/
structure Mailbox.LaidOut (mailbox : Mailbox) (payload : Bytes) : Prop where
  messages_eq : mailbox.messages = byteAt payload 0
  byteTotal_eq : mailbox.byteTotal.toNat = valueAt payload 1 2
  pending_iff : mailbox.pending = true ↔ byteAt payload 3 ≠ 0
  lost_eq : mailbox.lost = byteAt payload 4

/-- Announcements are read just by their layout. -/
theorem Mailbox.readsLayout :
    ReadsLayout .getRxMessages byteCount (fun _ ↦ byteCount) LaidOut ofFrame := by
  refine .of_fixed fun payload h ↦ ?_
  match payload, h with
  | messages :: b1 :: b0 :: pending :: lost :: _, _ =>
    refine ⟨_, ?_, fun rest ↦ rfl⟩
    exact
      { messages_eq := rfl
        byteTotal_eq := toNat_decode16_eq_value _ _
        pending_iff := bne_iff_ne
        lost_eq := rfl }

/-- The fields of a received packet stand at their places in a payload; what the device does not
tell is as it is in every packet. -/
structure RxPacket.LaidOut (packet : RxPacket) (payload : Bytes) : Prop where
  channel_eq : packet.channel = byteAt payload 0
  countUs_eq : packet.countUs.toNat = valueAt payload 1 4
  offsetHz_eq : packet.offsetHz.toInt = signedAt payload 5 4
  snr_eq : packet.snr = .ofInt (signedAt payload 9 1)
  rssi_eq : packet.rssi = .ofInt (signedAt payload 10 1)
  bytes_eq : packet.payload.bytes = fieldAt payload 12 (byteAt payload 11).toNat
  eq_default : packet =
    { channel := packet.channel, countUs := packet.countUs, offsetHz := packet.offsetHz,
      snr := packet.snr, rssi := packet.rssi, payload := packet.payload }

namespace RxPacket

/-- The payload bytes of an event, with those of the packet that byte 11 announces. -/
def layoutSize (payload : Bytes) : Nat := headBytes + (byteAt payload 11).toNat

/-- The fields before the packet are at their places, and byte 11 is the size of the packet. -/
theorem exists_head {payload : Bytes} (h : headBytes ≤ payload.length) :
    ∃ packet : RxPacket,
      (∀ rest, readHead? (payload.take headBytes ++ rest) =
        some (packet, (byteAt payload 11).toNat, rest)) ∧
      ∀ body : Payload, body.bytes = fieldAt payload 12 (byteAt payload 11).toNat →
        LaidOut { packet with payload := body } payload := by
  match payload, h with
  | channel :: c3 :: c2 :: c1 :: c0 :: f3 :: f2 :: f1 :: f0 :: snr :: rssi :: size :: _, _ =>
    refine ⟨_, fun rest ↦ rfl, fun body hbody ↦ ?_⟩
    exact
      { channel_eq := rfl
        countUs_eq := toNat_decode32_eq_value _ _ _ _
        offsetHz_eq := toInt_decode32_eq_bmod _ _ _ _
        snr_eq := congrArg Single.ofInt (toInt_toInt8_eq_bmod snr)
        rssi_eq := congrArg Single.ofInt (toInt_toInt8_eq_bmod rssi)
        bytes_eq := hbody
        eq_default := rfl }

/-- After the fields before it, what is left to ask for is the payload of the packet. -/
theorem ofFrame_of_readHead? {frame : Frame} {packet : RxPacket} {size : Nat} {rest : Bytes}
    (htag : frame.header.tag = ReplyCode.messageReceived.code)
    (hhead : headBytes ≤ frame.payload.length)
    (hread : readHead? frame.payload = some (packet, size, rest)) :
    ofFrame frame = do
      let _ ← frame.expect .messageReceived (headBytes + size)
      let body ← Payload.ofBytes (rest.take size)
      return { packet with payload := body } := by
  rw [ofFrame, Frame.expect_of_le htag hhead]
  show (orFail (readHead? frame.payload) _ >>= fun _ ↦ _) = _
  rw [hread]
  rfl

/-- After the fields before it, the bytes announced are the packet. -/
theorem ofFrame_of_body {frame : Frame} {packet : RxPacket} {body : Payload} {rest : Bytes}
    (htag : frame.header.tag = ReplyCode.messageReceived.code)
    (hlength : headBytes + body.size ≤ frame.payload.length)
    (hread : readHead? frame.payload = some (packet, body.size, body.bytes ++ rest)) :
    ofFrame frame = .ok { packet with payload := body } := by
  rw [ofFrame_of_readHead? htag (Nat.le_of_add_right_le hlength) hread,
    Frame.expect_of_le htag hlength, Payload.size, List.take_left]
  show (Payload.ofBytes body.bytes >>= fun _ ↦ _) = _
  rw [Payload.ofBytes, Payload.ofBytes?_bytes]
  rfl

/-- Events are read just by their layout, which byte 11 makes as long as it is. -/
theorem readsLayout : ReadsLayout .messageReceived headBytes layoutSize LaidOut ofFrame := by
  refine .of_refuses (fun frame htag ↦ ?_) (fun frame htag hlt ↦ ?_) (fun frame htag hle hlt ↦ ?_)
    fun frame hcarries ↦ ?_
  · rw [ofFrame, Frame.expect_of_tag_ne htag]
    rfl
  · rw [ofFrame, Frame.expect_of_lt htag hlt]
    rfl
  · obtain ⟨packet, hread, -⟩ := exists_head hle
    have hwhole := hread (frame.payload.drop headBytes)
    rw [List.take_append_drop] at hwhole
    rw [layoutSize] at hlt ⊢
    rw [ofFrame_of_readHead? htag hle hwhole, Frame.expect_of_lt htag hlt]
    rfl
  · obtain ⟨htag, hle, hsize⟩ := hcarries
    obtain ⟨packet, hread, hlaid⟩ := exists_head hle
    have hlength : (fieldAt frame.payload 12 (byteAt frame.payload 11).toNat).length =
        (byteAt frame.payload 11).toNat := by
      rw [fieldAt, List.length_take, List.length_drop]
      exact Nat.min_eq_left (Nat.le_sub_of_add_le' hsize)
    -- It fits, since its size is a byte.
    let body : Payload :=
      ⟨fieldAt frame.payload 12 _, hlength ▸ Nat.le_of_lt_succ (byteAt frame.payload 11).toNat_lt⟩
    have hbody : body.size = (byteAt frame.payload 11).toNat := hlength
    refine ⟨{ packet with payload := body }, hlaid body rfl, fun rest ↦ ?_⟩
    have htake : frame.payload.take (layoutSize frame.payload) ++ rest =
        frame.payload.take headBytes ++ (body.bytes ++ rest) := by
      rw [layoutSize, List.take_add, List.append_assoc]
      rfl
    rw [htake]
    refine ofFrame_of_body htag ?_ (hbody ▸ hread (body.bytes ++ rest))
    show headBytes + body.size ≤ (frame.payload.take headBytes ++ (body.bytes ++ rest)).length
    rw [List.length_append, List.length_append, List.length_take, Nat.min_eq_left hle, Payload.size]
    omega

end RxPacket

/-- The status byte of a reply is the first one of its payload. -/
theorem readsLayout_statusByte (reply : ReplyCode) :
    ReadsLayout reply 1 (fun _ ↦ 1) (fun code payload ↦ code = byteAt payload 0)
      (statusByte reply) := by
  refine .of_fixed fun payload h ↦ ?_
  match payload, h with
  | code :: _, _ => exact ⟨code, rfl, fun rest ↦ rfl⟩

/-! ### Frames -/

/-- The parts of a frame stand at their places in a byte string. -/
structure Frame.LaidOut (frame : Frame) (bs : Bytes) : Prop where
  id_eq : frame.header.id = byteAt bs 0
  size_eq : frame.header.size.toNat = valueAt bs 1 2
  tag_eq : frame.header.tag = byteAt bs 3
  payload_eq : frame.payload = fieldAt bs 4 (valueAt bs 1 2)

end LoraConcentrator
