import LoraConcentrator.Controller.Operations
import LoraConcentrator.Proofs.Link.Framing

/-!
# Exchanges

An exchange that succeeds wrote the frame of its request under the next correlation id and read one
frame, which is the reply it gives; nothing else of the controller changes than the source of ids
(`Exchanged`). An exchange that fails did so on a request that has no payload, with the link as it
was, or left the link out of step and says so (`exchange_error`).

The readers of replies never fail in another way: a reply of the wrong kind or too short for its
layout may be the middle of another frame, so their errors desynchronize the link as well
(`Desynchronizing`).
-/

namespace LoraConcentrator

namespace Controller

/-- The controller with another source of ids. -/
def withIds (c : Controller) (ids : IdSource) : Controller := { c with ids := ids }

variable (c : Controller) (ids : IdSource)

@[simp]
theorem ids_withIds : (c.withIds ids).ids = ids := rfl

@[simp]
theorem rxRadios_withIds : (c.withIds ids).rxRadios = c.rxRadios := rfl

@[simp]
theorem txRadios_withIds : (c.withIds ids).txRadios = c.txRadios := rfl

@[simp]
theorem checksIds_withIds : (c.withIds ids).checksIds = c.checksIds := rfl

end Controller

namespace DialogueM

open Link Program

variable {d d' : Dialogue}

/-! ### Steps of a dialogue -/

/-- A program on the link leaves the host as it was. -/
theorem onLink_eq_ok_iff {α : Type} {program : LinkM α} {a : α} :
    onLink program d = .ok a d' ↔
      ∃ link, program d.link = .ok a link ∧ d' = { d with link := link } := by
  unfold onLink
  rcases program d.link with ⟨b, link⟩ | ⟨e, link⟩
  · constructor
    · intro h
      cases h
      exact ⟨link, rfl, rfl⟩
    · rintro ⟨_, h, rfl⟩
      cases h
      rfl
  · constructor
    · intro h
      cases h
    · rintro ⟨_, h, -⟩
      cases h

theorem onLink_eq_error_iff {α : Type} {program : LinkM α} {e : Error} :
    onLink program d = .error e d' ↔
      ∃ link, program d.link = .error e link ∧ d' = { d with link := link } := by
  unfold onLink
  rcases program d.link with ⟨b, link⟩ | ⟨e', link⟩
  · constructor
    · intro h
      cases h
    · rintro ⟨_, h, -⟩
      cases h
  · constructor
    · intro h
      cases h
      exact ⟨link, rfl, rfl⟩
    · rintro ⟨_, h, rfl⟩
      cases h
      rfl

theorem ofExcept_eq_ok_iff {α : Type} {x : Except Error α} {a : α} :
    ofExcept x d = .ok a d' ↔ x = .ok a ∧ d' = d := by
  cases x with
  | ok b =>
    rw [ofExcept, pure_eq_ok_iff, Except.ok.injEq, eq_comm]
  | error e =>
    rw [ofExcept, throw_ne_ok]
    simp only [reduceCtorEq, false_and]

theorem ofExcept_eq_error_iff {α : Type} {x : Except Error α} {e : Error} :
    ofExcept x d = .error e d' ↔ x = .error e ∧ d' = d := by
  cases x with
  | ok b =>
    rw [ofExcept, pure_ne_error]
    simp only [reduceCtorEq, false_and]
  | error e' =>
    rw [ofExcept, throw_eq_error_iff, Except.error.injEq, eq_comm]

theorem note_eq_ok_iff {notice : Notice} {u : Unit} :
    note notice d = .ok u d' ↔ d' = { d with link := d.link.note notice } := by
  rw [note, onLink_eq_ok_iff]
  simp only [LinkM.note_eq_ok_iff, exists_eq_left]

theorem note_ne_error {notice : Notice} {e : Error} :
    note notice d = .error e d' ↔ False := by
  rw [note, onLink_eq_error_iff]
  simp only [LinkM.note_ne_error, false_and, exists_false]

/-- An id is drawn from the source and nothing else happens. -/
theorem drawId_eq_ok_iff {id : UInt8} :
    drawId d = .ok id d' ↔ id = d.controller.ids.next.1 ∧
      d' = { d with controller := d.controller.withIds d.controller.ids.next.2 } := by
  constructor
  · intro h
    cases h
    exact ⟨rfl, rfl⟩
  · rintro ⟨rfl, rfl⟩
    rfl

theorem drawId_ne_error {e : Error} : drawId d = .error e d' ↔ False := by
  constructor
  · intro h
    cases h
  · exact False.elim

/-! ### Exchanges -/

/-- The dialogue wrote the frame of a request, `written`, and read the frame `reply`, which is
`frame` taken apart; of the controller, only an id was used up. -/
structure Exchanged (request : Request) (written reply : Bytes) (frame : Frame)
    (d d' : Dialogue) : Prop where
  frame_eq : request.frame d.controller.ids.next.1 = .ok written
  isFrame : IsFrame reply
  parse_eq : Frame.parse reply = .ok frame
  moved : ∃ waits : List Arrival, (∀ a ∈ waits, a.isFailure) ∧
    Moved written (waits ++ reply.map .byte) d.link d'.link
  controller_eq : d'.controller = d.controller.withIds d.controller.ids.next.2
  id_eq : d.controller.checksIds → frame.header.id = d.controller.ids.next.1

/-- A frame that was read is whole, and the host is as it was. -/
theorem receiveFrame_ok {bs : Bytes} (h : receiveFrame d = .ok bs d') :
    d'.controller = d.controller ∧ IsFrame bs ∧
      ∃ waits : List Arrival, (∀ a ∈ waits, a.isFailure) ∧
        Moved [] (waits ++ bs.map .byte) d.link d'.link := by
  simp only [receiveFrame, bind_eq_ok_iff, get_eq_ok_iff, onLink_eq_ok_iff] at h
  obtain ⟨_, _, ⟨rfl, rfl⟩, link, hread, rfl⟩ := h
  obtain ⟨hframe, -, hm⟩ := LinkM.receiveFrame_ok hread
  exact ⟨rfl, hframe, hm⟩

/-- A frame that cannot be read leaves the link out of step, and the error says so. -/
theorem receiveFrame_error {e : Error} (h : receiveFrame d = .error e d') :
    d'.controller = d.controller ∧ e.desynchronizes ∧ ∃ taken, Moved [] taken d.link d'.link := by
  simp only [receiveFrame, bind_eq_error_iff, get_eq_ok_iff, get_ne_error, false_or,
    onLink_eq_error_iff] at h
  obtain ⟨_, _, ⟨rfl, rfl⟩, link, hread, rfl⟩ := h
  exact ⟨rfl, LinkM.receiveFrame_error hread⟩

/-- What an exchange that succeeds did. -/
theorem exchange_ok {request : Request} {frame : Frame} (h : exchange request d = .ok frame d') :
    ∃ written reply, Exchanged request written reply frame d d' := by
  simp only [exchange, bind_eq_ok_iff, drawId_eq_ok_iff, ofExcept_eq_ok_iff, onLink_eq_ok_iff,
    note_eq_ok_iff, get_eq_ok_iff] at h
  obtain ⟨_, _, ⟨rfl, rfl⟩, payload, _, ⟨hp, rfl⟩, _, _, ⟨link₁, hsend, rfl⟩, reply, d₁, hreply,
    frame', _, ⟨hparse, rfl⟩, _, _, rfl, _, _, ⟨rfl, rfl⟩, h⟩ := h
  obtain ⟨written, hwritten, hm₁⟩ := LinkM.sendRequest_ok hsend
  obtain ⟨hcontroller, hframe, waits, hwaits, hm₂⟩ := receiveFrame_ok hreply
  -- the guard on the id of the reply
  split at h
  · simp only [bind_eq_ok_iff, throw_ne_ok, false_and, exists_false] at h
  rename_i hid
  obtain ⟨rfl, rfl⟩ := pure_eq_ok_iff.1 h
  refine ⟨written, reply, ?_, hframe, hparse, ⟨waits, hwaits, ?_⟩, hcontroller, ?_⟩
  · rw [Request.frame, hp]
    exact hwritten
  · have hm := (hm₁.trans hm₂).note (.reply frame.header.tag frame.header.id frame.payload.length)
    rwa [List.append_nil, List.nil_append] at hm
  · intro hchecks
    by_contra hne
    refine hid ⟨?_, hne⟩
    rw [hcontroller, Controller.checksIds_withIds]
    exact hchecks

/-- An exchange that fails used up an id and left the link as it was, as its request has no payload,
or left the link out of step, somewhere behind the start of the request's frame. -/
theorem exchange_error {request : Request} {e : Error} (h : exchange request d = .error e d') :
    d'.controller = d.controller.withIds d.controller.ids.next.2 ∧
      ((request.payload = .error e ∧ d'.link = d.link) ∨
        ∃ written sent taken, request.frame d.controller.ids.next.1 = .ok written ∧
          e.desynchronizes ∧ sent <+: written ∧ Moved sent taken d.link d'.link) := by
  simp only [exchange, bind_eq_error_iff, drawId_eq_ok_iff, drawId_ne_error, ofExcept_eq_ok_iff,
    ofExcept_eq_error_iff, onLink_eq_ok_iff, onLink_eq_error_iff, note_eq_ok_iff, note_ne_error,
    get_eq_ok_iff, get_ne_error, false_or] at h
  obtain ⟨_, _, ⟨rfl, rfl⟩, ⟨hp, rfl⟩ | ⟨payload, _, ⟨hp, rfl⟩, h⟩⟩ := h
  · exact ⟨rfl, .inl ⟨hp, rfl⟩⟩
  have hframe (written : Bytes) (hw : requestFrame d.controller.ids.next.1 request.code payload =
      .ok written) : request.frame d.controller.ids.next.1 = .ok written := by
    rw [Request.frame, hp]
    exact hw
  -- a failure while the request is written
  obtain ⟨link₁, hsend, rfl⟩ | ⟨_, _, ⟨link₁, hsend, rfl⟩, h⟩ := h
  · rcases LinkM.sendRequest_error hsend with ⟨hw, -⟩ | ⟨written, sent, hw, he, hsent, hm⟩
    · rw [Request.requestFrame_eq_ok _ hp] at hw
      cases hw
    · exact ⟨rfl, .inr ⟨written, sent, [], hframe _ hw, he, hsent, hm⟩⟩
  obtain ⟨written, hw, hm₁⟩ := LinkM.sendRequest_ok hsend
  -- a failure while the reply is read
  obtain hreply | ⟨reply, d₁, hreply, h⟩ := h
  · obtain ⟨hcontroller, he, taken, hm₂⟩ := receiveFrame_error hreply
    have hm := hm₁.trans hm₂
    rw [List.append_nil, List.nil_append] at hm
    exact ⟨hcontroller, .inr ⟨written, written, taken, hframe _ hw, he, List.prefix_rfl, hm⟩⟩
  obtain ⟨hcontroller, hisFrame, waits, hwaits, hm₂⟩ := receiveFrame_ok hreply
  have hm := hm₁.trans hm₂
  rw [List.append_nil, List.nil_append] at hm
  -- what was read is a frame, so only its id is left to fail on
  obtain ⟨hparse, rfl⟩ | ⟨frame, _, ⟨hparse, rfl⟩, _, _, rfl, _, _, ⟨rfl, rfl⟩, h⟩ := h
  · obtain ⟨frame, hframe'⟩ := Frame.exists_parse hisFrame
    rw [hframe'] at hparse
    cases hparse
  split at h
  · simp only [bind_eq_error_iff, throw_eq_error_iff, throw_ne_ok, false_and, exists_false,
      or_false] at h
    obtain ⟨rfl, rfl⟩ := h
    exact ⟨hcontroller, .inr ⟨written, written, _, hframe _ hw, rfl, List.prefix_rfl, hm.note _⟩⟩
  · exact absurd h (by rw [pure_ne_error]; exact not_false)

/-- An exchange ended well with a reply that its reader accepts. -/
theorem ask_ok {α : Type} {request : Request} {decode : Frame → Except Error α} {a : α}
    (h : ask request decode d = .ok a d') :
    ∃ written reply frame, Exchanged request written reply frame d d' ∧ decode frame = .ok a := by
  simp only [ask, bind_eq_ok_iff, ofExcept_eq_ok_iff] at h
  obtain ⟨frame, _, hexchange, hdecode, rfl⟩ := h
  obtain ⟨written, reply, hx⟩ := exchange_ok hexchange
  exact ⟨written, reply, frame, hx, hdecode⟩

section Asking

variable {α : Type} {request : Request} {decode : Frame → Except Error α}

/-- Of the controller an exchange uses up an id, whatever becomes of it. -/
theorem controller_of_ask_ok {a : α} (h : ask request decode d = .ok a d') :
    d'.controller = d.controller.withIds d.controller.ids.next.2 := by
  obtain ⟨written, reply, frame, hx, -⟩ := ask_ok h
  exact hx.controller_eq

/-- Asking in vain costs an id and nothing else. -/
theorem controller_of_ask_error {e : Error} (h : ask request decode d = .error e d') :
    d'.controller = d.controller.withIds d.controller.ids.next.2 := by
  rcases bind_eq_error_iff.1 h with h | ⟨frame, _, hexchange, hdecode⟩
  · exact (exchange_error h).1
  · obtain ⟨-, rfl⟩ := ofExcept_eq_error_iff.1 hdecode
    obtain ⟨written, reply, hx⟩ := exchange_ok hexchange
    exact hx.controller_eq

end Asking

/-! ### Replies that cannot be read -/

/-- Every error of a computation desynchronizes the link. -/
def Desynchronizing {α : Type} (x : Except Error α) : Prop :=
  ∀ e, x = .error e → e.desynchronizes

/-- A reader is in two parts what its parts are. -/
theorem Desynchronizing.bind {α β : Type} {x : Except Error α} {f : α → Except Error β}
    (hx : Desynchronizing x) (hf : ∀ a, x = .ok a → Desynchronizing (f a)) :
    Desynchronizing (x >>= f) := by
  cases x with
  | error e =>
    intro e' h
    cases h
    exact hx e rfl
  | ok a => exact hf a rfl

/-- An exchange whose request has a payload fails only where it leaves the link out of step, if the
reader of its reply does. -/
theorem desynchronizes_of_ask_error {α : Type} {request : Request}
    {decode : Frame → Except Error α} {payload : Bytes} {e : Error}
    (hpayload : request.payload = .ok payload) (hdecode : ∀ frame, Desynchronizing (decode frame))
    (h : ask request decode d = .error e d') : e.desynchronizes := by
  rcases bind_eq_error_iff.1 h with hexchange | ⟨frame, _, -, hframe⟩
  · obtain ⟨-, ⟨hnone, -⟩ | ⟨_, _, _, -, he, -⟩⟩ := exchange_error hexchange
    · cases hpayload.symm.trans hnone
    · exact he
  · exact hdecode frame e (ofExcept_eq_error_iff.1 hframe).1

/-- A reader that finds nothing fails as it is told to. -/
theorem desynchronizing_orFail {α : Type} {found : Option α} {failure : Error}
    (hfailure : failure.desynchronizes) : Desynchronizing (orFail found failure) := by
  intro e h
  cases found <;> cases h
  exact hfailure

/-- Bytes that are no frame announce more than there is. -/
theorem desynchronizing_parse (bs : Bytes) : Desynchronizing (Frame.parse bs) := by
  intro e h
  unfold Frame.parse at h
  split at h
  · dsimp only at h
    split at h
    all_goals cases h
    rfl
  · cases h
    rfl

variable (frame : Frame)

/-- A frame that is not expected leaves the link out of step. -/
theorem desynchronizing_expect (reply : ReplyCode) (needed : Nat) :
    Desynchronizing (frame.expect reply needed) := by
  intro e h
  unfold Frame.expect at h
  split at h
  · cases h
    rfl
  · split at h
    · cases h
      rfl
    · cases h

theorem desynchronizing_identity : Desynchronizing (Identity.ofFrame frame) :=
  (desynchronizing_expect frame _ _).bind fun _ _ ↦ desynchronizing_orFail rfl

theorem desynchronizing_deviceStatus (rxRadios : UInt8) :
    Desynchronizing (DeviceStatus.ofFrame rxRadios frame) :=
  (desynchronizing_expect frame _ _).bind fun _ _ ↦ desynchronizing_orFail rfl

theorem desynchronizing_mailbox : Desynchronizing (Mailbox.ofFrame frame) :=
  (desynchronizing_expect frame _ _).bind fun _ _ ↦ desynchronizing_orFail rfl

theorem desynchronizing_statusByte (reply : ReplyCode) :
    Desynchronizing (statusByte reply frame) :=
  (desynchronizing_expect frame _ _).bind fun _ _ ↦ desynchronizing_orFail rfl

/-- The size of a message is a byte, so its payload is never too long for a packet. -/
theorem desynchronizing_rxPacket : Desynchronizing (RxPacket.ofFrame frame) := by
  refine (desynchronizing_expect frame _ _).bind fun payload _ ↦ ?_
  refine (desynchronizing_orFail rfl).bind fun ⟨packet, size, rest⟩ hhead ↦ ?_
  refine (desynchronizing_expect frame _ _).bind fun _ _ ↦ ?_
  have hsize : size ≤ Payload.capacity := by
    unfold RxPacket.readHead? at hhead
    split at hhead
    · cases hhead
      exact Nat.le_of_lt_succ (UInt8.toNat_lt _)
    · cases hhead
  have hbody : Payload.ofBytes (rest.take size) =
      .ok ⟨rest.take size, Nat.le_trans (List.length_take_le ..) hsize⟩ := by
    rw [Payload.ofBytes, Payload.ofBytes?, dif_pos]
    rfl
  rw [hbody]
  intro e h
  cases h

end DialogueM

end LoraConcentrator
