import LoraConcentrator.Proofs.Controller.Checks
import LoraConcentrator.Proofs.Link.Faults

/-!
# Requests as far as a link takes them

An exchange offers the frame of its request to the link, and what the link accepts of it is settled
before anything else of the exchange happens: whatever goes wrong afterwards, from handing the frame
over to reading the reply, neither adds a byte nor takes one back (`offers_exchange`). So the frame
is written in full where the link takes that many bytes, and is begun where the link takes a first
one.

What the two operations with a guard write is therefore settled by the guard: a receive radio is
configured exactly when the controller knows of it (`Controller.wrote_configRx_iff`), and a packet
is handed over exactly when the controller knows of a receive radio
(`Controller.wrote_prepareTx_iff`).
-/

namespace LoraConcentrator

open Link Program

namespace DialogueM

/-! ### What is written of a request -/

/-- The dialogue wrote the frame of a request under the next id, and not a byte more. -/
def Wrote (request : Request) (d d' : Dialogue) : Prop :=
  ∃ bytes, request.frame d.controller.ids.next.1 = .ok bytes ∧
    d'.link.sent = d.link.sent ++ bytes

/-- The dialogue wrote some bytes, which begin the frame of a request under the next id. -/
def Began (request : Request) (d d' : Dialogue) : Prop :=
  ∃ bytes sent, request.frame d.controller.ids.next.1 = .ok bytes ∧ sent ≠ [] ∧ sent <+: bytes ∧
    d'.link.sent = d.link.sent ++ sent

/-- The dialogue offered the frame of a request under the next id to its link, and nothing else. -/
def Offered (request : Request) (d d' : Dialogue) : Prop :=
  ∃ bytes count sent, request.frame d.controller.ids.next.1 = .ok bytes ∧
    Link.Offered bytes count sent d.link d'.link

/-- The link of a dialogue takes the frame of a request under the next id. -/
def TakesRequest (request : Request) (d : Dialogue) : Prop :=
  ∀ bytes, request.frame d.controller.ids.next.1 = .ok bytes → d.link.Takes bytes.length

/-- A dialogue that stayed as it was wrote nothing. -/
theorem not_wrote_self {request : Request} {d : Dialogue} : ¬ Wrote request d d := by
  rintro ⟨bytes, hframe, hsent⟩
  exact (Request.isFrame_of_frame hframe).ne_nil (List.self_eq_append_right.1 hsent)

theorem not_began_self {request : Request} {d : Dialogue} : ¬ Began request d d := by
  rintro ⟨bytes, sent, -, hne, -, hsent⟩
  exact hne (List.self_eq_append_right.1 hsent)

namespace Offered

variable {request : Request} {d d' d'' : Dialogue}

/-- A link that takes the frame was written all of it. -/
theorem wrote (h : Offered request d d') (htakes : TakesRequest request d) :
    Wrote request d d' := by
  obtain ⟨bytes, count, sent, hframe, haccepted, hmade⟩ := h
  have hwhole := haccepted.whole_iff.2 (htakes bytes hframe)
  exact ⟨bytes, hframe, hwhole ▸ hmade.sent_eq⟩

/-- A link that takes a first byte was written some of the frame. -/
theorem began (h : Offered request d d') (htakes : d.link.Takes 1) : Began request d d' := by
  obtain ⟨bytes, count, sent, hframe, haccepted, hmade⟩ := h
  have hne := (Request.isFrame_of_frame hframe).ne_nil
  exact ⟨bytes, sent, hframe, haccepted.begun_iff.2 ⟨hne, htakes⟩, haccepted.start, hmade.sent_eq⟩

/-- What follows the request is no write. -/
theorem trans_unwritten (h : Offered request d d') (h' : Unwritten d'.link d''.link) :
    Offered request d d'' := by
  obtain ⟨bytes, count, sent, hframe, hoffered⟩ := h
  exact ⟨bytes, count, sent, hframe, hoffered.trans_unwritten h'⟩

end Offered

/-! ### Requests offered whatever comes of them -/

/-- A program that makes no write, whatever comes of it. -/
abbrev WritesNothing {α : Type} (program : DialogueM α) : Prop :=
  Keeps (InvImage Unwritten Dialogue.link) (fun _ ↦ False) program

theorem writesNothing_note (notice : Notice) : WritesNothing (note notice) :=
  keeps_onLink (keptByReading_unwritten.keeps_note notice)

/-- Reading a frame writes nothing. -/
theorem writesNothing_receiveFrame : WritesNothing receiveFrame :=
  Keeps.get.bind fun d ↦
    keeps_onLink (keptByReading_unwritten.keeps_receiveFrame _ d.controller.replyTimeout)

theorem writesNothing_listen : WritesNothing listen :=
  writesNothing_receiveFrame.bind fun _ ↦ (keeps_ofExcept _).bind fun frame ↦
    (writesNothing_note _).bind fun _ ↦ .pure frame

theorem writesNothing_check (id : UInt8) (frame : Frame) : WritesNothing (check id frame) :=
  have hmismatch := Keeps.throw (Error.idMismatch id frame.header.id)
  Keeps.get.bind fun _ ↦ .ite (hmismatch.bind fun _ ↦ .pure frame) (.pure frame)

/-- From a dialogue a program offers a request and no more, whatever comes of it. -/
structure Offers {α : Type} (request : Request) (program : DialogueM α) (d : Dialogue) :
    Prop where
  of_ok : ∀ {d' : Dialogue} {a : α}, program d = .ok a d' → Offered request d d'
  of_error : ∀ {d' : Dialogue} {e : Error}, program d = .error e d' → Offered request d d'

section Offers

variable {α β : Type} {request : Request} {d d' d'' : Dialogue}

/-- What follows the request writes nothing. -/
theorem Offers.bind {x : DialogueM α} {f : α → DialogueM β} (hx : Offers request x d)
    (hf : ∀ a, WritesNothing (f a)) : Offers request (x >>= f) d where
  of_ok h := by
    obtain ⟨a, d₁, hxd, hfd⟩ := bind_eq_ok_iff.1 h
    exact (hx.of_ok hxd).trans_unwritten ((hf a).of_ok hfd)
  of_error h := by
    rcases bind_eq_error_iff.1 h with hxd | ⟨a, d₁, hxd, hfd⟩
    · exact hx.of_error hxd
    · exact (hx.of_ok hxd).trans_unwritten (((hf a).of_error hfd).resolve_left not_false)

theorem Offers.get_bind {f : Dialogue → DialogueM α} (h : Offers request (f d) d) :
    Offers request (get >>= f) d :=
  ⟨h.of_ok, h.of_error⟩

/-- A notice before the request changes nothing about it. -/
theorem Offers.after_note {x : DialogueM α} {notice : Notice}
    (h : Offers request x { d with link := d.link.note notice }) :
    Offers request (do note notice; x) d := by
  have hbefore {d' : Dialogue}
      (hoffered : Offered request { d with link := d.link.note notice } d') :
      Offered request d d' := by
    obtain ⟨bytes, count, sent, hframe, haccepted, hmade⟩ := hoffered
    exact ⟨bytes, count, sent, hframe, ⟨haccepted.start, haccepted.whole_iff,
      haccepted.undisturbed_iff, haccepted.begun_iff⟩, hmade.writes_eq, hmade.writeFaults_eq,
      hmade.sent_eq⟩
  exact ⟨fun hrun ↦ hbefore (h.of_ok hrun), fun hrun ↦ hbefore (h.of_error hrun)⟩

/-- A guard that does not hold does not keep a request from being offered. -/
theorem Offers.of_not {c : Prop} [Decidable c] {x y : DialogueM α} (hc : ¬ c)
    (hy : Offers request y d) : Offers request (if c then x else y) d := by
  rwa [if_neg hc]

/-- A request that has a frame is offered. -/
theorem offers_speak {bytes : Bytes} (hframe : request.frame d.controller.ids.next.1 = .ok bytes) :
    Offers request (speak request) d := by
  obtain ⟨payload, hpayload, hrequest⟩ := except_bind_eq_ok_iff.1 hframe
  constructor
  · intro d' id h
    simp only [speak, bind_eq_ok_iff, drawId_eq_ok_iff, ofExcept_eq_ok_iff, onLink_eq_ok_iff,
      pure_eq_ok_iff] at h
    obtain ⟨_, _, ⟨rfl, rfl⟩, _, _, ⟨hok, rfl⟩, _, _, ⟨link, hsend, rfl⟩, -, rfl⟩ := h
    cases hpayload.symm.trans hok
    obtain ⟨count, sent, hoffered⟩ := LinkM.offered_of_sendRequest hrequest (.inl hsend)
    exact ⟨bytes, count, sent, hframe, hoffered⟩
  · intro d' e h
    simp only [speak, bind_eq_error_iff, drawId_eq_ok_iff, drawId_ne_error, ofExcept_eq_ok_iff,
      ofExcept_eq_error_iff, onLink_eq_ok_iff, onLink_eq_error_iff, pure_ne_error, and_false,
      exists_false, or_false, false_or] at h
    obtain ⟨_, _, ⟨rfl, rfl⟩, ⟨herror, -⟩ | ⟨_, _, ⟨hok, rfl⟩, link, hsend, rfl⟩⟩ := h
    · cases hpayload.symm.trans herror
    · cases hpayload.symm.trans hok
      obtain ⟨count, sent, hoffered⟩ := LinkM.offered_of_sendRequest hrequest (.inr ⟨e, hsend⟩)
      exact ⟨bytes, count, sent, hframe, hoffered⟩

/-- An exchange offers its request, whatever comes of the reply. -/
theorem offers_exchange {bytes : Bytes}
    (hframe : request.frame d.controller.ids.next.1 = .ok bytes) :
    Offers request (exchange request) d := by
  rw [exchange_eq]
  exact (offers_speak hframe).bind fun id ↦ writesNothing_listen.bind fun frame ↦
    writesNothing_check id frame

/-- Asking offers the request whatever is made of the reply. -/
theorem offers_ask (hrequest : request.isWritable) (decode : Frame → Except Error α) :
    Offers request (ask request decode) d := by
  obtain ⟨bytes, hframe⟩ := Request.exists_frame hrequest d.controller.ids.next.1
  exact (offers_exchange hframe).bind fun frame ↦ keeps_ofExcept (decode frame)

/-- A reset is offered, and nothing else. -/
theorem offers_reset {target : ResetTarget} (htarget : (Request.reset target).isWritable) :
    Offers (.reset target) (reset target) d := by
  refine (offers_ask htarget (statusByte .reset)).bind fun code ↦ .ite ?_ (.pure _)
  exact (writesNothing_note _).bind fun _ ↦ .throw _

/-! ### The operations with a guard -/

/-- The setup of a radio that is known is offered. -/
theorem offers_configRx {radio : UInt8} (hradio : radio < d.controller.rxRadios)
    (channel : RxChannel) :
    Offers (.configRx (channel.setup radio)) (configRx radio channel) d := by
  refine .get_bind (.of_not (UInt8.not_le.2 hradio) ?_)
  refine (offers_ask rfl (statusByte .configRx)).bind fun code ↦ ?_
  split
  · exact .pure _
  · exact (writesNothing_note _).bind fun _ ↦ .throw _

/-- A packet is offered once a receive radio is known. -/
theorem offers_prepareTx (hradio : 1 ≤ d.controller.rxRadios) (packet : TxPacket) :
    Offers (.prepareTx packet.setup) (prepareTx packet) d := by
  refine .get_bind (.of_not (UInt8.not_lt.2 hradio) ?_)
  refine (offers_ask rfl (statusByte .prepareTx)).bind fun code ↦ ?_
  split
  · exact .pure _
  · exact (writesNothing_note _).bind fun _ ↦ .throw _

end Offers

end DialogueM

namespace Controller

open DialogueM

variable {d : Dialogue}

/-- What the program of an operation offers, the operation offered. -/
theorem offered_step {request : Request} {operation : Operation}
    (h : Offers request operation.run d) : Offered request d (step operation d).2 := by
  rcases hrun : operation.run d with ⟨answer, d'⟩ | ⟨e, d'⟩
  · rw [step_of_ok hrun]
    exact h.of_ok hrun
  · rw [step_of_error hrun]
    exact h.of_error hrun

/-- A radio that is not known is refused, and nothing has happened. -/
theorem step_configRx_of_le {radio : UInt8} (h : d.controller.rxRadios ≤ radio)
    (channel : RxChannel) :
    step (.configRx radio channel) d = (.error (.invalidChannel radio d.controller.rxRadios), d) :=
  step_of_error (map_of_error _ (by rw [configRx, get_bind, if_pos h]; rfl))

/-- A packet is refused while no receive radio is known, and nothing has happened. -/
theorem step_prepareTx_of_lt (h : d.controller.rxRadios < 1) (packet : TxPacket) :
    step (.prepareTx packet) d = (.error .noRxRadio, d) :=
  step_of_error (map_of_error _ (by rw [prepareTx, get_bind, if_pos h]; rfl))

/-- The setup of a radio that is known is offered to the link. -/
theorem offered_configRx {radio : UInt8} (h : radio < d.controller.rxRadios)
    (channel : RxChannel) :
    Offered (.configRx (channel.setup radio)) d (step (.configRx radio channel) d).2 :=
  offered_step ((offers_configRx h channel).bind fun _ ↦ .pure _)

/-- A packet is offered to the link when a radio is known. -/
theorem offered_prepareTx (h : 1 ≤ d.controller.rxRadios) (packet : TxPacket) :
    Offered (.prepareTx packet.setup) d (step (.prepareTx packet) d).2 :=
  offered_step ((offers_prepareTx h packet).bind fun _ ↦ .pure _)

/-- Exactly the radios that are known are configured, on a link that takes the request. -/
theorem wrote_configRx_iff (radio : UInt8) (channel : RxChannel)
    (htakes : TakesRequest (.configRx (channel.setup radio)) d) :
    Wrote (.configRx (channel.setup radio)) d (step (.configRx radio channel) d).2 ↔
      radio < d.controller.rxRadios := by
  refine ⟨fun h ↦ ?_, fun h ↦ (offered_configRx h channel).wrote htakes⟩
  by_contra hradio
  rw [step_configRx_of_le (UInt8.not_lt.1 hradio)] at h
  exact not_wrote_self h

/-- Exactly for them a request is begun, on a link that takes a first byte. -/
theorem began_configRx_iff (radio : UInt8) (channel : RxChannel) (htakes : d.link.Takes 1) :
    Began (.configRx (channel.setup radio)) d (step (.configRx radio channel) d).2 ↔
      radio < d.controller.rxRadios := by
  refine ⟨fun h ↦ ?_, fun h ↦ (offered_configRx h channel).began htakes⟩
  by_contra hradio
  rw [step_configRx_of_le (UInt8.not_lt.1 hradio)] at h
  exact not_began_self h

/-- A packet is handed over exactly when a receive radio is known, on a link that takes the
request. -/
theorem wrote_prepareTx_iff (packet : TxPacket)
    (htakes : TakesRequest (.prepareTx packet.setup) d) :
    Wrote (.prepareTx packet.setup) d (step (.prepareTx packet) d).2 ↔
      1 ≤ d.controller.rxRadios := by
  refine ⟨fun h ↦ ?_, fun h ↦ (offered_prepareTx h packet).wrote htakes⟩
  by_contra hradio
  rw [step_prepareTx_of_lt (UInt8.not_le.1 hradio)] at h
  exact not_wrote_self h

/-- Exactly then its request is begun, on a link that takes a first byte. -/
theorem began_prepareTx_iff (packet : TxPacket) (htakes : d.link.Takes 1) :
    Began (.prepareTx packet.setup) d (step (.prepareTx packet) d).2 ↔
      1 ≤ d.controller.rxRadios := by
  refine ⟨fun h ↦ ?_, fun h ↦ (offered_prepareTx h packet).began htakes⟩
  by_contra hradio
  rw [step_prepareTx_of_lt (UInt8.not_le.1 hradio)] at h
  exact not_began_self h

end Controller

end LoraConcentrator
