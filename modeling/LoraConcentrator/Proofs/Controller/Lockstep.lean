import LoraConcentrator.Controller.Run
import LoraConcentrator.Proofs.Link.Lockstep

/-!
# Conversations that cannot be told apart

A relation between dialogues is hidden from the operations of a controller when exchanges and the
readers of events run in lockstep on related dialogues (`Dialogue.Hidden`); every operation then
ends in agreement (`Controller.lockstep_operation`), and two runs of the same operations have the
same outcomes. Readers of replies never look at the id of a frame, so only such readers are asked
for (`IgnoresId`).

In particular a relation between links that no program of a link can observe is not observed by a
conversation either (`Link.Hidden.over`): the controller stays the same on both sides, and so do the
outcomes of a run (`Controller.run_over`).
-/

namespace LoraConcentrator

open Program

/-! ### Readers of frames and ids -/

/-- The frame with another id. -/
def Frame.withId (frame : Frame) (id : UInt8) : Frame :=
  { frame with header := { frame.header with id := id } }

/-- A frame with another first byte is taken apart into the frame with another id. -/
theorem Frame.parse_cons (id id' : UInt8) (bs : Bytes) :
    parse (id' :: bs) = (parse (id :: bs)).map (withId · id') := by
  match bs with
  | [] | [_] | [_, _] => rfl
  | high :: low :: tag :: rest =>
    unfold parse
    dsimp only
    by_cases hlength : (Header.ofBytes id high low tag).size.toNat ≤ rest.length
    · rw [if_pos hlength]
      exact if_pos hlength
    · rw [if_neg hlength]
      exact if_neg hlength

/-- What is read off a frame does not depend on its id. -/
def IgnoresId {α : Type} (decode : Frame → Except Error α) : Prop :=
  ∀ frame id, decode (frame.withId id) = decode frame

section IgnoresId

/-- What is expected of a frame is not its id. -/
theorem ignoresId_expect (reply : ReplyCode) (needed : Nat) : IgnoresId (·.expect reply needed) :=
  fun _ _ ↦ rfl

theorem ignoresId_statusByte (reply : ReplyCode) : IgnoresId (statusByte reply) := fun _ _ ↦ rfl

theorem ignoresId_identity : IgnoresId Identity.ofFrame := fun _ _ ↦ rfl

theorem ignoresId_deviceStatus (rxRadios : UInt8) : IgnoresId (DeviceStatus.ofFrame rxRadios) :=
  fun _ _ ↦ rfl

theorem ignoresId_mailbox : IgnoresId Mailbox.ofFrame := fun _ _ ↦ rfl

theorem ignoresId_rxPacket : IgnoresId RxPacket.ofFrame := fun _ _ ↦ rfl

end IgnoresId

namespace Dialogue

/-! ### Hidden relations -/

/-- A relation between dialogues that no reader of events can observe. -/
structure HiddenFromReceiving (D : Dialogue → Dialogue → Prop) : Prop where
  note : ∀ {d d' : Dialogue} (notice : Notice), D d d' →
    D { d with link := d.link.note notice } { d' with link := d'.link.note notice }
  /-- What follows the reading of a frame and does not depend on its id. -/
  receiveFrame : ∀ {α : Type} {f : Bytes → DialogueM α}, (∀ bs, Lockstep D (f bs) (f bs)) →
    (∀ id id' bs, f (id' :: bs) = f (id :: bs)) →
      Lockstep D (DialogueM.receiveFrame >>= f) (DialogueM.receiveFrame >>= f)

/-- A relation between dialogues that no operation can observe. -/
structure Hidden (D : Dialogue → Dialogue → Prop) : Prop extends HiddenFromReceiving D where
  rxRadios_eq : ∀ {d d' : Dialogue}, D d d' → d'.controller.rxRadios = d.controller.rxRadios
  clock_eq : ∀ {d d' : Dialogue}, D d d' → d'.link.clock = d.link.clock
  pending_eq : ∀ {d d' : Dialogue}, D d d' → d'.link.pending = d.link.pending
  pass : ∀ {d d' : Dialogue} (time : Duration), D d d' →
    D { d with link := d.link.pass time } { d' with link := d'.link.pass time }
  /-- Numbers of radios are learned. -/
  learn : ∀ {d d' : Dialogue} (rxRadios txRadios : UInt8), D d d' →
    D { d with controller := { d.controller with rxRadios := rxRadios, txRadios := txRadios } }
      { d' with controller := { d'.controller with rxRadios := rxRadios, txRadios := txRadios } }
  ask : ∀ {α : Type} (request : Request) {decode : Frame → Except Error α}, IgnoresId decode →
    Lockstep D (DialogueM.ask request decode) (DialogueM.ask request decode)

end Dialogue

variable {D : Dialogue → Dialogue → Prop}

namespace DialogueM

theorem lockstep_ofExcept {α : Type} (x : Except Error α) :
    Lockstep D (ofExcept x) (ofExcept x) := by
  cases x with
  | ok a => exact .pure a
  | error e => exact .throw e

/-- What a reader makes of a frame does not depend on the first byte. -/
theorem parse_bind_congr {α β : Type} {decode : Frame → Except Error α} (h : IgnoresId decode)
    (f : α → DialogueM β) (id id' : UInt8) (bs : Bytes) :
    (ofExcept (Frame.parse (id' :: bs)) >>= fun frame ↦ ofExcept (decode frame) >>= f) =
      ofExcept (Frame.parse (id :: bs)) >>= fun frame ↦ ofExcept (decode frame) >>= f := by
  rw [Frame.parse_cons id id']
  cases Frame.parse (id :: bs) with
  | ok frame =>
    show ofExcept (decode (frame.withId id')) >>= f = ofExcept (decode frame) >>= f
    rw [h]
  | error e => rfl

/-- A turn of the wait for a transmission, by the status the device reports. -/
theorem pollTx_of_txStatus {interval limit start : Duration} {status : TxStatus} {d next : Dialogue}
    (hstatus : txStatus d = .ok status next) :
    pollTx interval limit start d =
      if status.isError then
        .error (.txFailed status) { next with link := next.link.note (.transmissionFailed status) }
      else if status.isTerminal then .ok status next
      else if limit ≤ next.link.clock - start then .error (.txPollTimeout limit) next
      else if next.link.pending < d.link.pending then
        pollTx interval limit start { next with link := next.link.pass interval }
      else .error .disconnected next := by
  rw [pollTx, hstatus]

/-! ### Receiving -/

section Receiving

variable (h : Dialogue.HiddenFromReceiving D)

include h

theorem lockstep_note (notice : Notice) : Lockstep D (note notice) (note notice) :=
  fun _ _ hd ↦ .ok (h.note notice hd)

/-- Reading events one by one shows nothing that reading a frame hides. -/
theorem lockstep_drain (limit index left : Nat) :
    Lockstep D (drain limit index left) (drain limit index left) := by
  induction left generalizing index with
  | zero => exact .pure []
  | succ left ih =>
    refine h.receiveFrame (fun bytes ↦ .ite ?_ ?_) fun id id' bs ↦ ?_
    · exact (lockstep_note h _).bind fun _ ↦ ih _
    · refine (lockstep_ofExcept _).bind fun frame ↦ (lockstep_ofExcept _).bind fun packet ↦ ?_
      exact (ih _).bind fun _ ↦ .pure _
    · rw [parse_bind_congr ignoresId_rxPacket _ id id']

theorem lockstep_collect (limit : Nat) (mailbox : Mailbox) :
    Lockstep D (collect limit mailbox) (collect limit mailbox) := by
  refine .ite (.pure []) ((lockstep_note h _).bind fun _ ↦ ?_)
  refine (lockstep_drain h _ _ _).bind fun packets ↦ .ite ?_ (.pure packets)
  exact (lockstep_note h _).bind fun _ ↦ .pure packets

end Receiving

/-! ### Operations -/

section Operations

variable (h : Dialogue.Hidden D)

include h

theorem lockstep_pass (time : Duration) : Lockstep D (pass time) (pass time) :=
  fun _ _ hd ↦ .ok (h.pass time hd)

theorem lockstep_ping : Lockstep D ping ping := by
  refine (h.ask _ ignoresId_identity).bind fun identity ↦ Lockstep.bind ?_ fun _ ↦ ?_
  · exact .modify fun _ _ ↦ h.learn identity.rxRadios identity.txRadios
  · exact (lockstep_note h.toHiddenFromReceiving _).bind fun _ ↦ .pure _

theorem lockstep_status : Lockstep D status status := by
  refine .get_bind fun d d' hd ↦ ?_
  rw [h.rxRadios_eq hd]
  refine Lockstep.bind (h.ask _ (ignoresId_deviceStatus _)) (fun _ ↦ ?_) hd
  exact (lockstep_note h.toHiddenFromReceiving _).bind fun _ ↦ .pure _

theorem lockstep_txStatus : Lockstep D txStatus txStatus :=
  (h.ask _ (ignoresId_statusByte _)).bind fun _ ↦ .pure _

/-- A guard before an exchange shows nothing more, as it looks at what the host knows. -/
theorem lockstep_configRx (radio : UInt8) (channel : RxChannel) :
    Lockstep D (configRx radio channel) (configRx radio channel) := by
  refine .get_bind fun d d' hd ↦ ?_
  rw [h.rxRadios_eq hd]
  refine Lockstep.ite (.throw_bind _ _ _) ?_ hd
  refine (h.ask _ (ignoresId_statusByte _)).bind fun code ↦ ?_
  split
  · exact .pure _
  · exact (lockstep_note h.toHiddenFromReceiving _).bind fun _ ↦ .throw _

theorem lockstep_prepareTx (packet : TxPacket) :
    Lockstep D (prepareTx packet) (prepareTx packet) := by
  refine .get_bind fun d d' hd ↦ ?_
  rw [h.rxRadios_eq hd]
  refine Lockstep.ite (.throw_bind _ _ _) ?_ hd
  refine (h.ask _ (ignoresId_statusByte _)).bind fun code ↦ ?_
  split
  · exact .pure _
  · exact (lockstep_note h.toHiddenFromReceiving _).bind fun _ ↦ .throw _

/-- By induction on what bounds the turns. -/
theorem lockstep_pollTx (interval limit start : Duration) :
    Lockstep D (pollTx interval limit start) (pollTx interval limit start) := by
  intro d d' hd
  induction hbound : d.link.pending using Nat.strongRecOn generalizing d d' with
  | ind bound ih =>
    rcases (lockstep_txStatus h hd).ok_or_error with
      ⟨status, next, next', hstatus, hstatus', hnext⟩ | ⟨e, next, _, hstatus, hstatus', hnext⟩
    · rw [pollTx_of_txStatus hstatus, pollTx_of_txStatus hstatus', h.clock_eq hnext,
        h.pending_eq hnext, h.pending_eq hd]
      split
      · exact .error (h.note _ hnext)
      split
      · exact .ok hnext
      split
      · exact .error hnext
      split
      · rename_i hless
        have hless' : (next.link.pass interval).pending < bound := hbound ▸ hless
        exact ih _ hless' (h.pass interval hnext) rfl
      · exact .error hnext
    · rw [pollTx, pollTx, hstatus, hstatus']
      exact .error hnext

/-- A wait for a transmission shows nothing that its exchanges and pauses hide. -/
theorem lockstep_awaitTx (interval limit : Duration) :
    Lockstep D (awaitTx interval limit) (awaitTx interval limit) :=
  .get_bind fun d d' hd ↦ by
    rw [h.clock_eq hd]
    exact lockstep_pollTx h _ _ _ hd

/-- A `receive` shows nothing that its exchange and its events hide. -/
theorem lockstep_receive (limit : Nat) :
    Lockstep D (receive limit) (receive limit) := by
  have hcollect := lockstep_collect h.toHiddenFromReceiving limit
  refine (h.ask _ ignoresId_mailbox).bind fun mailbox ↦ .ite ?_ (hcollect mailbox)
  exact (lockstep_note h.toHiddenFromReceiving _).bind fun _ ↦ hcollect mailbox

theorem lockstep_reset (target : ResetTarget) : Lockstep D (reset target) (reset target) := by
  refine (h.ask _ (ignoresId_statusByte _)).bind fun code ↦ .ite ?_ (.pure _)
  exact (lockstep_note h.toHiddenFromReceiving _).bind fun _ ↦ .throw _

theorem lockstep_resetAll (withMcu : Bool) :
    Lockstep D (resetAll withMcu) (resetAll withMcu) := by
  refine (lockstep_reset h .rxAll).bind fun _ ↦ (lockstep_reset h .tx).bind fun _ ↦ ?_
  refine .ite ((lockstep_reset h .mcu).bind fun _ ↦ ?_) (lockstep_pass h _)
  exact lockstep_pass h _

theorem lockstep_enterBootloader : Lockstep D enterBootloader enterBootloader :=
  (h.ask _ (ignoresId_expect _ _)).bind fun _ ↦ lockstep_note h.toHiddenFromReceiving _

theorem lockstep_readRegister (radio : UInt8) (address : UInt16) :
    Lockstep D (readRegister radio address) (readRegister radio address) :=
  h.ask _ (ignoresId_statusByte _)

theorem lockstep_writeRegister (radio : UInt8) (address : UInt16) (value : UInt8) :
    Lockstep D (writeRegister radio address value) (writeRegister radio address value) :=
  (h.ask _ (ignoresId_expect _ _)).bind fun _ ↦ .pure _

theorem lockstep_setRssiCoefficient (radio : UInt8) (coefficient : Binary.Single) :
    Lockstep D (setRssiCoefficient radio coefficient) (setRssiCoefficient radio coefficient) :=
  (h.ask _ (ignoresId_statusByte _)).bind fun _ ↦ .ite (.throw _) (.pure _)

end Operations

end DialogueM

/-! ### Runs -/

namespace Controller

/-- A run is its first operation and the run of the others. -/
theorem run_cons (operation : Operation) (operations : List Operation) (d : Dialogue) :
    run (operation :: operations) d =
      ((step operation d).1 :: (run operations (step operation d).2).1,
        (run operations (step operation d).2).2) :=
  rfl

section

variable (h : Dialogue.Hidden D)

include h

/-- No operation shows what exchanges hide. -/
theorem lockstep_operation (operation : Operation) : Lockstep D operation.run operation.run := by
  cases operation with
  | ping => exact (DialogueM.lockstep_ping h).map _
  | status => exact (DialogueM.lockstep_status h).map _
  | txStatus => exact (DialogueM.lockstep_txStatus h).map _
  | configRx radio channel => exact (DialogueM.lockstep_configRx h radio channel).map _
  | prepareTx packet => exact (DialogueM.lockstep_prepareTx h packet).map _
  | awaitTx interval limit => exact (DialogueM.lockstep_awaitTx h interval limit).map _
  | receive limit => exact (DialogueM.lockstep_receive h limit).map _
  | reset target => exact (DialogueM.lockstep_reset h target).map _
  | resetAll withMcu => exact (DialogueM.lockstep_resetAll h withMcu).map _
  | enterBootloader => exact (DialogueM.lockstep_enterBootloader h).map _
  | readRegister radio address => exact (DialogueM.lockstep_readRegister h radio address).map _
  | writeRegister radio address value =>
    exact (DialogueM.lockstep_writeRegister h radio address value).map _
  | setRssiCoefficient radio coefficient =>
    exact (DialogueM.lockstep_setRssiCoefficient h radio coefficient).map _

/-- An operation has the same outcome for related dialogues and leaves them related. -/
theorem step_hidden (operation : Operation) {d d' : Dialogue} (hd : D d d') :
    (step operation d').1 = (step operation d).1 ∧
      D (step operation d).2 (step operation d').2 := by
  have hagree := lockstep_operation h operation hd
  unfold step
  rcases hagree.ok_or_error with ⟨a, s, t, hx, hy, hst⟩ | ⟨e, s, t, hx, hy, hst⟩
  · rw [hx, hy]
    exact ⟨rfl, hst⟩
  · rw [hx, hy]
    exact ⟨rfl, hst⟩

/-- The same of a run. -/
theorem run_hidden (operations : List Operation) {d d' : Dialogue} (hd : D d d') :
    (run operations d').1 = (run operations d).1 ∧
      D (run operations d).2 (run operations d').2 := by
  induction operations generalizing d d' with
  | nil => exact ⟨rfl, hd⟩
  | cons operation operations ih =>
    obtain ⟨houtcome, hnext⟩ := step_hidden h operation hd
    obtain ⟨houtcomes, hend⟩ := ih hnext
    rw [run_cons, run_cons]
    exact ⟨List.cons_eq_cons.2 ⟨houtcome, houtcomes⟩, hend⟩

end

end Controller

/-! ### Links that cannot be told apart -/

variable {L : Link → Link → Prop}

/-- The same controller speaks over related links. -/
def Dialogue.Over (L : Link → Link → Prop) (d d' : Dialogue) : Prop :=
  ∃ link, L d.link link ∧ d' = { d with link := link }

instance [IsEquiv Link L] : IsEquiv Dialogue (Dialogue.Over L) where
  refl d := ⟨d.link, Std.Refl.refl _, rfl⟩
  symm d _ := by
    rintro ⟨link, hl, rfl⟩
    exact ⟨d.link, Std.Symm.symm _ _ hl, rfl⟩
  trans _ _ _ := by
    rintro ⟨link, hl, rfl⟩ ⟨link', hl', rfl⟩
    exact ⟨link', IsTrans.trans _ _ _ hl hl', rfl⟩

namespace DialogueM

/-- What programs on a link cannot tell, dialogues over it cannot. -/
theorem lockstep_onLink {α : Type} {x y : LinkM α} (hxy : Lockstep L x y) :
    Lockstep (Dialogue.Over L) (onLink x) (onLink y) := by
  rintro d _ ⟨link, hl, rfl⟩
  unfold onLink
  rcases (hxy hl).ok_or_error with ⟨a, s, t, hx, hy, hst⟩ | ⟨e, s, t, hx, hy, hst⟩
  · rw [hx, hy]
    exact .ok ⟨t, hst, rfl⟩
  · rw [hx, hy]
    exact .error ⟨t, hst, rfl⟩

/-- The ids drawn do not depend on the link. -/
theorem lockstep_drawId : Lockstep (Dialogue.Over L) drawId drawId := by
  rintro d _ ⟨link, hl, rfl⟩
  exact .ok ⟨link, hl, rfl⟩

/-- What follows a look at the dialogue and does not depend on its link. -/
theorem lockstep_get {α : Type} {f : Dialogue → DialogueM α}
    (hf : ∀ d, Lockstep (Dialogue.Over L) (f d) (f d))
    (hlink : ∀ d link, f { d with link := link } = f d) :
    Lockstep (Dialogue.Over L) (get >>= f) (get >>= f) := by
  refine .get_bind ?_
  rintro d _ ⟨link, hl, rfl⟩
  have hsame := hlink d link
  rw [hsame]
  exact hf d ⟨link, hl, rfl⟩

/-- What reads hide, reading an event hides. -/
theorem lockstep_receiveFrame (h : Link.HiddenFromReading L) :
    Lockstep (Dialogue.Over L) receiveFrame receiveFrame :=
  lockstep_get (fun _ ↦ lockstep_onLink (h.receiveFrame _ _)) fun _ _ ↦ rfl

end DialogueM

/-- What is hidden from reads is hidden from receiving. -/
theorem Link.HiddenFromReading.over (h : HiddenFromReading L) :
    Dialogue.HiddenFromReceiving (Dialogue.Over L) where
  note notice := by
    rintro ⟨link, hl, rfl⟩
    exact ⟨_, h.note notice hl, rfl⟩
  receiveFrame hf _ := (DialogueM.lockstep_receiveFrame h).bind hf

/-- What reads and writes hide, an exchange hides. -/
theorem DialogueM.lockstep_exchange (h : Link.Hidden L) (request : Request) :
    Lockstep (Dialogue.Over L) (exchange request) (exchange request) := by
  refine lockstep_drawId.bind fun id ↦ (lockstep_ofExcept _).bind fun payload ↦ ?_
  refine (lockstep_onLink (h.sendRequest _ _ _)).bind fun _ ↦ ?_
  refine (lockstep_receiveFrame h.toHiddenFromReading).bind fun bytes ↦ ?_
  refine (lockstep_ofExcept _).bind fun frame ↦ ?_
  refine (lockstep_note h.toHiddenFromReading.over _).bind fun _ ↦ ?_
  exact lockstep_get (fun _ ↦ .ite (.throw_bind _ _ _) (.pure frame)) fun _ _ ↦ rfl

/-- What no program of a link can observe is not observed by a conversation. -/
theorem Link.Hidden.over (h : Hidden L) : Dialogue.Hidden (Dialogue.Over L) where
  toHiddenFromReceiving := h.toHiddenFromReading.over
  rxRadios_eq := by
    rintro _ _ ⟨link, -, rfl⟩
    rfl
  clock_eq := by
    rintro _ _ ⟨link, hl, rfl⟩
    exact h.clock_eq hl
  pending_eq := by
    rintro _ _ ⟨link, hl, rfl⟩
    exact h.pending_eq hl
  pass time := by
    rintro ⟨link, hl, rfl⟩
    exact ⟨_, h.pass time hl, rfl⟩
  learn rxRadios txRadios := by
    rintro ⟨link, hl, rfl⟩
    exact ⟨link, hl, rfl⟩
  ask request _ _ :=
    (DialogueM.lockstep_exchange h request).bind fun _ ↦ DialogueM.lockstep_ofExcept _

/-- Two runs over related links have the same outcomes and leave the same controller. -/
theorem Controller.run_over (h : Link.Hidden L) (operations : List Operation) {d d' : Dialogue}
    (hd : Dialogue.Over L d d') :
    (run operations d').1 = (run operations d).1 ∧
      Dialogue.Over L (run operations d).2 (run operations d').2 :=
  run_hidden h.over operations hd

end LoraConcentrator
