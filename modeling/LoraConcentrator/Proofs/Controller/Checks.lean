import LoraConcentrator.Proofs.Controller.Lockstep
import LoraConcentrator.Proofs.Controller.Requests

/-!
# Checked replies

An exchange writes its request, reads a reply and checks the id of the reply, in this order
(`DialogueM.exchange_eq`). Whether ids are checked is looked at in the last part alone, so with the
check on an exchange is what it is without, except that a reply with another id than its request is
refused (`DialogueM.exchange_of_checks`).

The numbers of radios are learned only from a reply that was accepted and read, so no operation that
fails changes them (`DialogueM.sameRadios_of_run_error`).
-/

namespace LoraConcentrator

open Program

/-- The dialogue of a controller that checks ids, or of one that does not. -/
def Dialogue.checking (on : Bool) (d : Dialogue) : Dialogue :=
  { d with controller := { d.controller with checksIds := on } }

namespace DialogueM

/-! ### The parts of an exchange -/

/-- Writes a request under the next id. -/
def speak (request : Request) : DialogueM UInt8 := do
  let id ← drawId
  let payload ← ofExcept request.payload
  onLink (LinkM.sendRequest id request.code payload)
  return id

/-- Reads a frame and takes it apart. -/
def listen : DialogueM Frame := do
  let bytes ← receiveFrame
  let frame ← ofExcept (Frame.parse bytes)
  note (.reply frame.header.tag frame.header.id frame.payload.length)
  return frame

/-- Checks a reply: it must carry the id of its request, where that is asked for. -/
def check (id : UInt8) (frame : Frame) : DialogueM Frame := do
  if (← get).controller.checksIds ∧ frame.header.id ≠ id then
    throw (.idMismatch id frame.header.id)
  return frame

/-- An exchange writes its request, reads a frame and checks its id. -/
theorem exchange_eq (request : Request) :
    exchange request = (do
      let id ← speak request
      let frame ← listen
      check id frame) := by
  unfold exchange speak listen check
  simp only [bind_assoc, pure_bind]

section Parts

variable {d d' : Dialogue}

/-- Only a host that checks ids rejects a frame for its id. -/
theorem check_eq (id : UInt8) (frame : Frame) (d : Dialogue) :
    check id frame d =
      if d.controller.checksIds ∧ frame.header.id ≠ id then
        .error (.idMismatch id frame.header.id) d
      else .ok frame d := by
  unfold check
  rw [get_bind]
  split
  · rfl
  · rfl

/-- A request is written under the next id. -/
theorem speak_ok {request : Request} {id : UInt8} (h : speak request d = .ok id d') :
    id = d.controller.ids.next.1 ∧
      d'.controller = d.controller.withIds d.controller.ids.next.2 := by
  simp only [speak, bind_eq_ok_iff, drawId_eq_ok_iff, ofExcept_eq_ok_iff, onLink_eq_ok_iff,
    pure_eq_ok_iff] at h
  obtain ⟨_, _, ⟨rfl, rfl⟩, _, _, ⟨-, rfl⟩, _, _, ⟨link, -, rfl⟩, rfl, rfl⟩ := h
  exact ⟨rfl, rfl⟩

/-- Reading a reply changes nothing that the host knows. -/
theorem listen_ok {frame : Frame} (h : listen d = .ok frame d') : d'.controller = d.controller := by
  simp only [listen, bind_eq_ok_iff, ofExcept_eq_ok_iff, note_eq_ok_iff, pure_eq_ok_iff] at h
  obtain ⟨_, d₁, hread, _, _, ⟨-, rfl⟩, _, _, rfl, rfl, rfl⟩ := h
  exact (receiveFrame_ok hread).1

end Parts

/-! ### Checked ids -/

section Checks

variable (on : Bool)

theorem lockstep_onLink_checking {α : Type} (program : LinkM α) :
    Lockstep (fun d d' ↦ d' = d.checking on) (onLink program) (onLink program) := by
  rintro d _ rfl
  have hlink : (d.checking on).link = d.link := rfl
  unfold onLink
  rw [hlink]
  rcases program d.link with ⟨a, link⟩ | ⟨e, link⟩
  · exact .ok rfl
  · exact .error rfl

/-- A request is written the same whether or not ids are checked. -/
theorem lockstep_speak_checking (request : Request) :
    Lockstep (fun d d' ↦ d' = d.checking on) (speak request) (speak request) := by
  refine Lockstep.bind ?_ fun id ↦ (lockstep_ofExcept _).bind fun payload ↦
    (lockstep_onLink_checking on _).bind fun _ ↦ .pure id
  rintro d _ rfl
  exact .ok rfl

/-- A reply is read the same whether or not ids are checked. -/
theorem lockstep_listen_checking :
    Lockstep (fun d d' ↦ d' = d.checking on) listen listen := by
  refine Lockstep.bind (.get_bind ?_) fun bytes ↦ (lockstep_ofExcept _).bind fun frame ↦
    (lockstep_onLink_checking on _).bind fun _ ↦ .pure frame
  rintro d _ rfl
  exact lockstep_onLink_checking on _ rfl

end Checks

variable {d d' : Dialogue} {request : Request}

/-- With the check on, an exchange is what it is without, but for the check: a reply with another id
is refused. -/
theorem exchange_of_checks (hchecks : d.controller.checksIds) {frame : Frame}
    (h : exchange request (d.checking false) = .ok frame d') :
    exchange request d =
      if frame.header.id = d.controller.ids.next.1 then .ok frame (d'.checking true)
      else .error (.idMismatch d.controller.ids.next.1 frame.header.id) (d'.checking true) := by
  have hd : d = (d.checking false).checking true := by
    rw [Dialogue.checking, Dialogue.checking, ← hchecks]
  rw [exchange_eq] at h ⊢
  simp only [bind_eq_ok_iff] at h
  obtain ⟨id, d₁, hspeak, frame', d₂, hlisten, hcheck⟩ := h
  obtain ⟨hid, hcontroller⟩ := speak_ok hspeak
  -- without the check the reply is taken as it is
  have hunchecked : ¬ d₂.controller.checksIds := by
    rw [listen_ok hlisten, hcontroller]
    exact Bool.false_ne_true
  rw [check_eq, if_neg fun hmismatch ↦ hunchecked hmismatch.1] at hcheck
  cases hcheck
  -- the same conversation, and then the check
  obtain ⟨_, hspeak', rfl⟩ := (lockstep_speak_checking true request hd).exists_of_ok hspeak
  obtain ⟨_, hlisten', rfl⟩ := (lockstep_listen_checking true rfl).exists_of_ok hlisten
  rw [bind_of_ok hspeak', bind_of_ok hlisten', check_eq]
  subst hid
  by_cases hsame : frame.header.id = d.controller.ids.next.1
  · rw [if_pos hsame]
    exact if_neg fun hmismatch ↦ hmismatch.2 hsame
  · rw [if_neg hsame]
    exact if_pos ⟨rfl, hsame⟩

/-! ### Operations that fail -/

/-- No event tells numbers of radios. -/
theorem keeps_sameRadios_receiveFrame : Keeps SameRadios (fun _ ↦ False) receiveFrame where
  of_ok h := by
    have hcontroller := (receiveFrame_ok h).1
    exact ⟨congrArg _ hcontroller, congrArg _ hcontroller⟩
  of_error h := by
    have hcontroller := (receiveFrame_error h).1
    exact .inr ⟨congrArg _ hcontroller, congrArg _ hcontroller⟩

/-- No `receive` learns numbers of radios. -/
theorem keeps_sameRadios_receive (limit : Nat) :
    Keeps SameRadios (fun _ ↦ False) (receive limit) := by
  have hcollect := keeps_collect kept_sameRadios.note keeps_sameRadios_receiveFrame limit
  refine (kept_sameRadios.ask _ desynchronizing_mailbox).bind fun mailbox ↦
    .ite ?_ (hcollect mailbox)
  exact (kept_sameRadios.note _).bind fun _ ↦ hcollect mailbox

/-- An operation that fails leaves the numbers of radios as they are. -/
theorem sameRadios_of_run_error {operation : Controller.Operation} {e : Error}
    (h : operation.run d = .error e d') : SameRadios d d' := by
  by_cases hping : operation = .ping
  · -- the numbers are learned only after all that can fail
    subst hping
    rcases bind_eq_error_iff.1 (map_eq_error_iff.1 h) with hask | ⟨identity, next, -, hrest⟩
    · have hkeeps := kept_sameRadios.ask .ping desynchronizing_identity
      exact (hkeeps.of_error hask).resolve_left not_false
    · cases hrest
  by_cases hreceive : ∃ limit, operation = .receive limit
  · obtain ⟨limit, rfl⟩ := hreceive
    exact (((keeps_sameRadios_receive limit).map _).of_error h).resolve_left not_false
  · have hkeeps := kept_sameRadios.run hping (not_exists.1 hreceive)
    exact (hkeeps.of_error h).resolve_left not_false

end DialogueM

end LoraConcentrator
