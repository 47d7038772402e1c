import LoraConcentrator.Proofs.Wire.ReplyLayout
import LoraConcentrator.Wire.Request

/-!
# Replies that are accepted

A reply answers its request in good order when it has the tag of the reply, at least the bytes of
the layout and, where the first of them is a status byte that is judged, zero there
(`Request.Accepts`). Otherwise it is rejected, for the first of these three that is missing
(`Request.Rejects`). This says what the protocol asks for apart from the readers of replies, and the
readers agree with it: they accept and reject just so, since each of them reads just its layout
(`Request.carries_of_reader_ok`, `Request.rejects_of_reader_error`).
-/

namespace LoraConcentrator.Request

open BigEndian

/-- The payload bytes of the layout of the reply, where that many receive radios are known. -/
def replyBytes (rxRadios : UInt8) : Request → Nat
  | ping => Identity.byteCount
  | getStatus => DeviceStatus.byteCount rxRadios
  | _ => 1

/-- What a status byte of the reply refuses, if it is not zero. -/
def refusal? : Request → UInt8 → Option Refusal
  | reset target, code => if code = statusOk then none else some (.reset target code)
  | configRx setup, code => if code = statusOk then none else some (.configRx setup.radio code)
  | _, _ => none

/-- A frame answers the request in good order: it has the tag of its reply and the bytes of the
layout, and it refuses nothing. -/
structure Accepts (rxRadios : UInt8) (request : Request) (frame : Frame) : Prop where
  tag_eq : frame.header.tag = request.reply.code
  length_le : request.replyBytes rxRadios ≤ frame.payload.length
  accepted : request.refusal? (frame.payload.headD 0) = none

/-- A frame does not answer the request, and why: a wrong tag comes before a short payload, and both
before a refusal. -/
inductive Rejects (rxRadios : UInt8) (request : Request) (frame : Frame) : Error → Prop
  | tag : frame.header.tag ≠ request.reply.code →
      Rejects rxRadios request frame (.unexpectedReply request.reply frame.header.tag)
  | length : frame.header.tag = request.reply.code →
      frame.payload.length < request.replyBytes rxRadios →
        Rejects rxRadios request frame
          (.malformedReply request.reply frame.payload.length (request.replyBytes rxRadios))
  | refusal {refusal : Refusal} : frame.header.tag = request.reply.code →
      request.replyBytes rxRadios ≤ frame.payload.length →
        request.refusal? (frame.payload.headD 0) = some refusal →
          Rejects rxRadios request frame (.refused refusal)

variable {rxRadios : UInt8} {request : Request} {frame : Frame} {e : Error}

/-- No frame is accepted and rejected. -/
theorem Accepts.not_rejects (h : request.Accepts rxRadios frame) :
    ¬ request.Rejects rxRadios frame e := by
  rintro (htag | ⟨-, hlength⟩ | ⟨-, -, hrefusal⟩)
  · exact htag h.tag_eq
  · exact Nat.not_lt_of_le h.length_le hlength
  · cases h.accepted.symm.trans hrefusal

/-! ### Readers of replies -/

section Readers

variable (rxRadios) (request) {α : Type} {LaidOut : α → Bytes → Prop}
  {read : Frame → Except Error α}
  (hreads : ReadsLayout request.reply (request.replyBytes rxRadios)
    (fun _ ↦ request.replyBytes rxRadios) LaidOut read)

include hreads

/-- A reader of the layout accepts no other tag and no shorter payload. -/
theorem carries_of_reader_ok {a : α} (h : read frame = .ok a) :
    frame.header.tag = request.reply.code ∧ request.replyBytes rxRadios ≤ frame.payload.length := by
  have hcarries := (hreads.exists_ok_iff frame).1 ⟨a, h⟩
  exact ⟨hcarries.tag_eq, hcarries.head_le⟩

/-- It fails on nothing else. -/
theorem rejects_of_reader_error (h : read frame = .error e) :
    request.Rejects rxRadios frame e := by
  by_cases htag : frame.header.tag = request.reply.code
  · by_cases hle : request.replyBytes rxRadios ≤ frame.payload.length
    · obtain ⟨a, hok⟩ := (hreads.exists_ok_iff frame).2 ⟨htag, hle, hle⟩
      cases hok.symm.trans h
    · have hlt := Nat.lt_of_not_le hle
      cases (hreads.of_lt_head frame htag hlt).symm.trans h
      exact .length htag hlt
  · cases (hreads.of_tag_ne frame htag).symm.trans h
    exact .tag htag

end Readers

/-- A frame that is read as an identity is accepted as the reply to the first request. -/
theorem accepts_of_identity {identity : Identity} (h : Identity.ofFrame frame = .ok identity) :
    Accepts rxRadios .ping frame := by
  obtain ⟨htag, hle⟩ := carries_of_reader_ok rxRadios .ping Identity.readsLayout h
  exact ⟨htag, hle, rfl⟩

/-- What the reader of identities misses in a frame is what the reply is rejected for. -/
theorem rejects_of_identity (h : Identity.ofFrame frame = .error e) :
    Rejects rxRadios .ping frame e :=
  rejects_of_reader_error rxRadios .ping Identity.readsLayout h

/-- A frame that is read as a status is accepted as the reply to its request. -/
theorem accepts_of_status {status : DeviceStatus}
    (h : DeviceStatus.ofFrame rxRadios frame = .ok status) :
    Accepts rxRadios .getStatus frame := by
  obtain ⟨htag, hle⟩ :=
    carries_of_reader_ok rxRadios .getStatus (DeviceStatus.readsLayout rxRadios) h
  exact ⟨htag, hle, rfl⟩

/-- What the reader of a status misses in a frame is what the reply is rejected for. -/
theorem rejects_of_status (h : DeviceStatus.ofFrame rxRadios frame = .error e) :
    Rejects rxRadios .getStatus frame e :=
  rejects_of_reader_error rxRadios .getStatus (DeviceStatus.readsLayout rxRadios) h

section StatusByte

variable (hbytes : request.replyBytes rxRadios = 1)

include hbytes

/-- Where a reply takes one byte, the reader of status bytes reads its layout. -/
theorem readsLayout_of_replyBytes :
    ReadsLayout request.reply (request.replyBytes rxRadios) (fun _ ↦ request.replyBytes rxRadios)
      (fun code payload ↦ code = byteAt payload 0) (statusByte request.reply) := by
  rw [hbytes]
  exact readsLayout_statusByte request.reply

/-- The status byte is the first one of the payload. -/
theorem of_statusByte {code : UInt8} (h : statusByte request.reply frame = .ok code) :
    frame.header.tag = request.reply.code ∧
      request.replyBytes rxRadios ≤ frame.payload.length ∧ frame.payload.headD 0 = code := by
  have hreads := readsLayout_of_replyBytes hbytes
  obtain ⟨htag, hle⟩ := carries_of_reader_ok rxRadios request hreads h
  refine ⟨htag, hle, ?_⟩
  rw [hreads.of_ok frame code h, byteAt, List.headD_eq_head?_getD, List.head?_eq_getElem?]

/-- What the reader of status bytes misses in a frame is what the reply is rejected for. -/
theorem rejects_of_statusByte (h : statusByte request.reply frame = .error e) :
    Rejects rxRadios request frame e :=
  rejects_of_reader_error rxRadios request (readsLayout_of_replyBytes hbytes) h

end StatusByte

end LoraConcentrator.Request
