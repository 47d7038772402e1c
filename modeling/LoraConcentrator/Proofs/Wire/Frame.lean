import LoraConcentrator.Proofs.Program
import LoraConcentrator.Wire.Request

/-!
# Whole frames

A byte string is one frame when it is a header followed by just the payload bytes that the header
announces (`IsFrame`). Nothing else tells where a frame ends, so this is the notion that both ends
of a link have to agree on.

Every request that can be written is one frame (`Request.isFrame_of_frame`). The only requests that
cannot be written reset a radio that no board has (`Request.payload_eq_error_iff`); no payload comes
near the capacity of the request buffer (`Request.length_payload_le`), so filling the buffer part by
part is the same as writing the payload (`Request.fill_eq`).
-/

namespace LoraConcentrator

/-- A byte string that is one frame: a header, and as many payload bytes as its size says. -/
def IsFrame (bs : Bytes) : Prop :=
  ∃ (header : Header) (payload : Bytes),
    payload.length = header.size.toNat ∧ bs = header.bytes ++ payload

theorem IsFrame.ne_nil {bs : Bytes} (h : IsFrame bs) : bs ≠ [] := by
  obtain ⟨header, payload, -, rfl⟩ := h
  exact List.cons_ne_nil _ _

namespace Frame

/-- A byte string that is one frame is taken apart into its header and its payload. -/
theorem parse_of_length_eq {header : Header} {payload : Bytes}
    (h : payload.length = header.size.toNat) :
    parse (header.bytes ++ payload) = .ok ⟨header, payload⟩ :=
  parse_eq_ok_iff.2 ⟨payload, rfl, Nat.le_of_eq h.symm, by rw [← h, List.take_length]⟩

/-- A whole frame is parsed. -/
theorem exists_parse {bs : Bytes} (h : IsFrame bs) : ∃ frame, parse bs = .ok frame := by
  obtain ⟨header, payload, hlen, rfl⟩ := h
  exact ⟨_, parse_of_length_eq hlen⟩

end Frame

namespace Request

/-- The frame of a request. -/
def frame (id : UInt8) (r : Request) : Except Error Bytes := do
  let payload ← r.payload
  requestFrame id r.code payload

/-! ### Payloads -/

theorem length_rxSetupBytes (s : RxSetup) : (rxSetupBytes s).length = 11 := rfl

/-- The payload of a packet takes 21 bytes and those of the packet. -/
theorem length_txSetupBytes (s : TxSetup) :
    (txSetupBytes s).length = 21 + s.payload.size := by
  simp only [txSetupBytes, List.length_append, List.length_cons, BigEndian.length_encode32,
    BigEndian.length_encode16, Payload.size]
  omega

/-- The longest payload is that of a packet to send. -/
theorem length_payload_le {r : Request} {bs : Bytes} (h : r.payload = .ok bs) :
    bs.length ≤ 276 := by
  cases r with
  | prepareTx s =>
    cases h
    have hs : s.payload.size ≤ 255 := s.payload.length_le
    rw [length_txSetupBytes]
    omega
  | reset target =>
    rw [payload] at h
    cases hc : target.code with
    | error e =>
      rw [hc] at h
      cases h
    | ok c =>
      rw [hc] at h
      cases h
      show 1 ≤ 276
      decide
  | _ =>
    cases h
    simp [length_rxSetupBytes]

/-- The byte of a reset target is missing just for a radio that no board has. -/
theorem code_eq_error_iff {target : ResetTarget} {e : Error} :
    target.code = .error e ↔
      ∃ radio : UInt8, target = .rx radio ∧ 3 ≤ radio.toNat ∧ e = .invalidChannel radio 3 := by
  cases target with
  | rx radio =>
    rw [ResetTarget.code, orFail_eq_error_iff, ResetTarget.code?_eq_none_iff]
    constructor
    · rintro ⟨⟨_, h, hle⟩, rfl⟩
      cases h
      exact ⟨radio, rfl, hle, rfl⟩
    · rintro ⟨_, h, hle, rfl⟩
      cases h
      exact ⟨⟨radio, rfl, hle⟩, rfl⟩
  | _ =>
    constructor
    · intro h
      cases h
    · rintro ⟨_, h, -⟩
      cases h

/-- The only request that cannot be written is the reset of a radio that no board has. -/
theorem payload_eq_error_iff {r : Request} {e : Error} :
    r.payload = .error e ↔
      ∃ radio : UInt8, r = .reset (.rx radio) ∧ 3 ≤ radio.toNat ∧
        e = .invalidChannel radio 3 := by
  cases r with
  | reset target =>
    have hmap : (reset target).payload = .error e ↔ target.code = .error e := by
      rw [payload]
      cases target.code with
      | error e' =>
        constructor <;>
        · intro h
          cases h
          rfl
      | ok c =>
        constructor <;>
        · intro h
          cases h
    rw [hmap, code_eq_error_iff]
    simp only [reset.injEq]
  | _ =>
    constructor
    · intro h
      cases h
    · rintro ⟨_, h, -⟩
      cases h

/-! ### The request buffer -/

/-- Parts that fit together are appended one after the other. -/
theorem push_eq_ok {parts : List Bytes} {held : Bytes}
    (h : held.length + parts.flatten.length ≤ requestCapacity) :
    push parts held = (.ok (), held ++ parts.flatten) := by
  induction parts generalizing held with
  | nil => rw [push, List.flatten_nil, List.append_nil]
  | cons part parts ih =>
    rw [List.flatten_cons, List.length_append] at h
    rw [push, if_pos (by omega), ih (by rw [List.length_append]; omega), List.flatten_cons,
      List.append_assoc]

/-- The parts of a request make up its payload. -/
theorem payload_eq_map_parts (r : Request) : r.payload = r.parts.map List.flatten := by
  cases r with
  | reset target =>
    rw [payload, parts]
    cases target.code <;> rfl
  | prepareTx s =>
    simp only [payload, parts, Except.map, txSetupBytes, List.flatten_cons, List.flatten_nil,
      List.cons_append, List.append_assoc, List.nil_append, List.append_nil]
  | _ => rfl

/-- Filling the buffer part by part is writing the payload, whatever the buffer held. -/
theorem fill_eq (r : Request) (held : Bytes) :
    r.fill held =
      match r.payload with
      | .ok bs => (.ok (), bs)
      | .error e => (.error e, []) := by
  have hparts := r.payload_eq_map_parts
  rw [fill]
  cases hp : r.parts with
  | error e =>
    rw [hp] at hparts
    rw [hparts]
    rfl
  | ok parts =>
    rw [hp] at hparts
    have hlen := length_payload_le hparts
    have hfit : ([] : Bytes).length + parts.flatten.length ≤ requestCapacity := by
      rw [requestCapacity, List.length_nil]
      omega
    rw [hparts]
    exact push_eq_ok hfit

/-! ### Frames -/

/-- The header of the frame of a request. -/
def header (id : UInt8) (r : Request) (payload : Bytes) : Header :=
  ⟨id, UInt16.ofNat payload.length, r.code.code⟩

/-- A payload within the capacity of a request has its length in the size field. -/
theorem toNat_size_header {payload : Bytes} (id : UInt8) (r : Request)
    (h : payload.length ≤ requestCapacity) :
    (header id r payload).size.toNat = payload.length := by
  rw [requestCapacity] at h
  show (UInt16.ofNat payload.length).toNat = payload.length
  rw [UInt16.toNat_ofNat']
  omega

/-- Every payload of a request has a frame. -/
theorem requestFrame_eq_ok {r : Request} {payload : Bytes} (id : UInt8)
    (h : r.payload = .ok payload) :
    requestFrame id r.code payload = .ok ((header id r payload).bytes ++ payload) := by
  have hlen := length_payload_le h
  rw [requestFrame, if_neg (by rw [requestCapacity]; omega)]
  rfl

/-- A request has a frame exactly when it has a payload. -/
theorem frame_eq_ok_iff {id : UInt8} {r : Request} {bs : Bytes} :
    r.frame id = .ok bs ↔
      ∃ payload, r.payload = .ok payload ∧ bs = (header id r payload).bytes ++ payload := by
  rw [frame, Program.except_bind_eq_ok_iff]
  constructor
  · rintro ⟨payload, hp, h⟩
    rw [requestFrame_eq_ok id hp] at h
    exact ⟨payload, hp, (Except.ok.inj h).symm⟩
  · rintro ⟨payload, hp, rfl⟩
    exact ⟨payload, hp, requestFrame_eq_ok id hp⟩

/-- The frame of a request is one frame. -/
theorem isFrame_of_frame {id : UInt8} {r : Request} {bs : Bytes} (h : r.frame id = .ok bs) :
    IsFrame bs := by
  obtain ⟨payload, hp, rfl⟩ := frame_eq_ok_iff.1 h
  have hlen := length_payload_le hp
  exact ⟨_, payload, (toNat_size_header id r (by rw [requestCapacity]; omega)).symm, rfl⟩

end Request

end LoraConcentrator
