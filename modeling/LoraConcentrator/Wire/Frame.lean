import LoraConcentrator.Error

/-!
# Frames

Requests, replies and events share one layout: a correlation id, the size of the payload in two
bytes, a tag, and the payload. Nothing marks the start or the end of a frame and nothing checks its
content, so a boundary is known only by honouring the size. Main statement: a byte string is parsed
exactly when it holds a header and the payload that the header announces
(`Frame.parse_eq_ok_iff`).
-/

namespace LoraConcentrator

/-- The head of a frame. -/
structure Header where
  id : UInt8
  /-- The number of payload bytes. -/
  size : UInt16
  tag : UInt8
  deriving DecidableEq, Repr

namespace Header

/-- The number of bytes of a header. -/
def byteCount : Nat := 4

/-- The bytes of a header. -/
def bytes (h : Header) : Bytes := h.id :: BigEndian.encode16 h.size ++ [h.tag]

/-- The header of four bytes. -/
def ofBytes (id high low tag : UInt8) : Header := ⟨id, BigEndian.decode16 high low, tag⟩

/-- The length of the whole frame. -/
def frameLength (h : Header) : Nat := byteCount + h.size.toNat

@[simp]
theorem length_bytes (h : Header) : h.bytes.length = byteCount := rfl

/-- Writing a header that was read gives its bytes again. -/
theorem bytes_ofBytes (id high low tag : UInt8) :
    (ofBytes id high low tag).bytes = [id, high, low, tag] := by
  rw [bytes, ofBytes, BigEndian.encode16_decode16]
  rfl

/-- Reading a header that was written gives the header again. -/
theorem ofBytes_bytes (h : Header) :
    ofBytes h.id (UInt8.ofNat (h.size.toNat / 256)) (UInt8.ofNat h.size.toNat) h.tag = h := by
  rw [ofBytes, BigEndian.decode16_encode16]

end Header

/-- A frame taken apart. -/
structure Frame where
  header : Header
  payload : Bytes
  deriving DecidableEq, Repr

namespace Frame

/-- Takes the first frame of a byte string apart. -/
def parse : Bytes → Except Error Frame
  | id :: high :: low :: tag :: rest =>
    let header := Header.ofBytes id high low tag
    if header.size.toNat ≤ rest.length then .ok ⟨header, rest.take header.size.toNat⟩
    else .error (.replyTooLarge header.frameLength (rest.length + Header.byteCount))
  | bs => .error (.replyTooLarge Header.byteCount bs.length)

/-- The payload of a reply, provided that the frame carries that reply and at least the bytes its
layout needs. A wrong tag is reported before a short payload. -/
def expect (frame : Frame) (reply : ReplyCode) (needed : Nat) : Except Error Bytes :=
  if frame.header.tag ≠ reply.code then .error (.unexpectedReply reply frame.header.tag)
  else if frame.payload.length < needed then
    .error (.malformedReply reply frame.payload.length needed)
  else .ok frame.payload

/-- A frame that was parsed is a header and the bytes that its size announces. -/
theorem parse_eq_ok_iff {bs : Bytes} {frame : Frame} :
    parse bs = .ok frame ↔
      ∃ rest, bs = frame.header.bytes ++ rest ∧ frame.header.size.toNat ≤ rest.length ∧
        frame.payload = rest.take frame.header.size.toNat := by
  constructor
  · intro h
    match bs, h with
    | id :: high :: low :: tag :: rest, h =>
      simp only [parse] at h
      split at h
      · cases h
        refine ⟨rest, ?_, ‹_›, rfl⟩
        rw [Header.bytes_ofBytes]
        rfl
      · cases h
    | [], h | [_], h | [_, _], h | [_, _, _], h => simp [parse] at h
  · rintro ⟨rest, rfl, hle, hpay⟩
    obtain ⟨header, payload⟩ := frame
    obtain rfl : payload = rest.take header.size.toNat := hpay
    show parse (header.id :: UInt8.ofNat (header.size.toNat / 256) ::
      UInt8.ofNat header.size.toNat :: header.tag :: rest) = _
    simp only [parse, Header.ofBytes_bytes]
    rw [if_pos hle]

/-- A frame is accepted for its tag and for enough bytes, and its payload is given whole. -/
theorem expect_eq_ok_iff {frame : Frame} {reply : ReplyCode} {needed : Nat} {payload : Bytes} :
    frame.expect reply needed = .ok payload ↔
      frame.header.tag = reply.code ∧ needed ≤ frame.payload.length ∧ payload = frame.payload := by
  unfold expect
  by_cases htag : frame.header.tag = reply.code
  · by_cases hlen : frame.payload.length < needed
    · rw [if_neg (fun h ↦ h htag), if_pos hlen]
      constructor
      · intro h
        cases h
      · rintro ⟨_, h, _⟩
        omega
    · rw [if_neg (fun h ↦ h htag), if_neg hlen]
      constructor
      · intro h
        cases h
        exact ⟨htag, Nat.le_of_not_lt hlen, rfl⟩
      · rintro ⟨_, _, rfl⟩
        rfl
  · rw [if_pos htag]
    constructor
    · intro h
      cases h
    · rintro ⟨h, _⟩
      exact absurd h htag

end Frame

/-! ### Request frames -/

/-- The most payload bytes of a request. -/
def requestCapacity : Nat := 280

/-- The frame of a request. -/
def requestFrame (id : UInt8) (request : RequestCode) (payload : Bytes) : Except Error Bytes :=
  if payload.length > requestCapacity then
    .error (.requestTooLarge payload.length requestCapacity)
  else .ok (Header.bytes ⟨id, UInt16.ofNat payload.length, request.code⟩ ++ payload)

end LoraConcentrator
