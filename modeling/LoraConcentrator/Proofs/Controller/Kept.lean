import LoraConcentrator.Controller.Run
import LoraConcentrator.Proofs.Controller.Exchange
import LoraConcentrator.Proofs.Link.Kept

/-!
# What the operations keep

Almost every operation of a controller is put together from exchanges, notices and waits. A preorder
on dialogues that these three keep, outside excused errors, is therefore kept by the operation
(`Kept`, `Kept.run`). Two operations are left out, since they do more: `ping` learns the numbers of
radios, and `receive` goes on to read events that nobody asked for, which keeps what reading a frame
and noting it keeps (`keeps_collect`).

What a link keeps, the conversations over it keep (`kept_of_link`).
-/

namespace LoraConcentrator

namespace Controller

theorem step_of_ok {operation : Operation} {d d' : Dialogue} {answer : Answer}
    (h : operation.run d = .ok answer d') : step operation d = (.ok answer, d') := by
  rw [step, h]

theorem step_of_error {operation : Operation} {d d' : Dialogue} {e : Error}
    (h : operation.run d = .error e d') : step operation d = (.error e, d') := by
  rw [step, h]

/-- An answer is given where the program succeeds. -/
theorem step_eq_ok_iff {operation : Operation} {d d' : Dialogue} {answer : Answer} :
    step operation d = (.ok answer, d') ↔ operation.run d = .ok answer d' := by
  constructor
  · intro h
    rcases hrun : operation.run d with ⟨answer', d₁⟩ | ⟨e, d₁⟩
    · cases (step_of_ok hrun).symm.trans h
      rfl
    · cases (step_of_error hrun).symm.trans h
  · exact step_of_ok

/-- An error is given where the program fails. -/
theorem step_eq_error_iff {operation : Operation} {d d' : Dialogue} {e : Error} :
    step operation d = (.error e, d') ↔ operation.run d = .error e d' := by
  constructor
  · intro h
    rcases hrun : operation.run d with ⟨answer, d₁⟩ | ⟨e', d₁⟩
    · cases (step_of_ok hrun).symm.trans h
    · cases (step_of_error hrun).symm.trans h
      rfl
  · exact step_of_error

end Controller

namespace DialogueM

open Program
open Controller (Operation)

variable {R : Dialogue → Dialogue → Prop} {excused : Error → Prop}

/-- Every exchange, every notice and every wait keeps a relation. Of the readers of replies it is
known that their errors desynchronize the link. -/
structure Kept (R : Dialogue → Dialogue → Prop) (excused : Error → Prop) : Prop where
  ask : ∀ {α : Type} (request : Request) {decode : Frame → Except Error α},
    (∀ frame, Desynchronizing (decode frame)) → Keeps R excused (ask request decode)
  note : ∀ notice, Keeps R excused (note notice)
  pass : ∀ time, Keeps R excused (pass time)

namespace Kept

variable (h : Kept R excused)

include h

/-- What every exchange keeps, asking for a status byte keeps. -/
theorem statusByte (request : Request) (reply : ReplyCode) :
    Keeps R excused (DialogueM.ask request (LoraConcentrator.statusByte reply)) :=
  h.ask request fun frame ↦ desynchronizing_statusByte frame reply

variable [IsPreorder Dialogue R]

/-- What may follow a refusal: a notice and the error. -/
theorem refuse {α : Type} (notice : Notice) (e : Error) :
    Keeps R excused (do DialogueM.note notice; throw e : DialogueM α) :=
  (h.note notice).bind fun _ ↦ .throw e

theorem status : Keeps R excused status := by
  refine Keeps.get.bind fun d ↦ ?_
  refine (h.ask .getStatus (desynchronizing_deviceStatus · d.controller.rxRadios)).bind fun _ ↦ ?_
  exact (h.note _).bind fun _ ↦ .pure _

theorem txStatus : Keeps R excused txStatus :=
  (h.statusByte _ _).bind fun _ ↦ .pure _

theorem configRx (radio : UInt8) (channel : RxChannel) :
    Keeps R excused (configRx radio channel) := by
  refine Keeps.get.bind fun d ↦
    .ite (Keeps.throw (Error.invalidChannel radio d.controller.rxRadios)) ?_
  refine (h.statusByte _ _).bind fun code ↦ ?_
  split
  · exact .pure _
  · exact h.refuse _ _

theorem prepareTx (packet : TxPacket) : Keeps R excused (prepareTx packet) := by
  refine Keeps.get.bind fun _ ↦ .ite (Keeps.throw Error.noRxRadio) ?_
  refine (h.statusByte _ _).bind fun code ↦ ?_
  split
  · exact .pure _
  · exact h.refuse _ _

/-- By induction on the arrivals that are left, as each turn but the last uses some up. -/
theorem pollTx (interval limit start : Duration) :
    Keeps R excused (pollTx interval limit start) where
  of_ok {d d' a} hrun := by
    fun_induction DialogueM.pollTx interval limit start d with
    | case1 | case2 | case4 | case6 => cases hrun
    | case3 d status d₁ hstatus =>
      cases hrun
      exact h.txStatus.of_ok hstatus
    | case5 d status d₁ hstatus _ _ _ _ ih =>
      -- the answer, the wait, and then the turns that are left
      have hwait : R d₁ { d₁ with link := d₁.link.pass interval } := (h.pass interval).of_ok rfl
      exact IsTrans.trans _ _ _ (h.txStatus.of_ok hstatus) (IsTrans.trans _ _ _ hwait (ih hrun))
  of_error {d d' e} hrun := by
    fun_induction DialogueM.pollTx interval limit start d with
    | case1 d e' d₁ hstatus =>
      cases hrun
      exact h.txStatus.of_error hstatus
    | case2 d status d₁ hstatus =>
      cases hrun
      have hnote : R d₁ { d₁ with link := d₁.link.note (.transmissionFailed status) } :=
        (h.note _).of_ok rfl
      exact .inr (IsTrans.trans _ _ _ (h.txStatus.of_ok hstatus) hnote)
    | case3 => cases hrun
    | case4 d status d₁ hstatus =>
      cases hrun
      exact .inr (h.txStatus.of_ok hstatus)
    | case5 d status d₁ hstatus _ _ _ _ ih =>
      have hwait : R d₁ { d₁ with link := d₁.link.pass interval } := (h.pass interval).of_ok rfl
      refine (ih hrun).imp_right fun hrest ↦ ?_
      exact IsTrans.trans _ _ _ (h.txStatus.of_ok hstatus) (IsTrans.trans _ _ _ hwait hrest)
    | case6 d status d₁ hstatus =>
      cases hrun
      exact .inr (h.txStatus.of_ok hstatus)

theorem awaitTx (interval limit : Duration) : Keeps R excused (awaitTx interval limit) :=
  Keeps.get.bind fun _ ↦ h.pollTx _ _ _

theorem reset (target : ResetTarget) : Keeps R excused (reset target) :=
  (h.statusByte _ _).bind fun _ ↦ .ite (h.refuse _ _) (.pure _)

theorem resetAll (withMcu : Bool) : Keeps R excused (resetAll withMcu) := by
  refine (h.reset .rxAll).bind fun _ ↦ (h.reset .tx).bind fun _ ↦ ?_
  exact .ite ((h.reset .mcu).bind fun _ ↦ h.pass _) (h.pass _)

theorem enterBootloader : Keeps R excused enterBootloader :=
  (h.ask _ fun frame ↦ desynchronizing_expect frame _ _).bind fun _ ↦ h.note _

theorem writeRegister (radio : UInt8) (address : UInt16) (value : UInt8) :
    Keeps R excused (writeRegister radio address value) :=
  (h.ask _ fun frame ↦ desynchronizing_expect frame _ _).bind fun _ ↦ .pure _

theorem setRssiCoefficient (radio : UInt8) (coefficient : Binary.Single) :
    Keeps R excused (setRssiCoefficient radio coefficient) :=
  (h.statusByte _ _).bind fun _ ↦ .ite (.throw _) (.pure _)

/-- An operation keeps what exchanges, notices and waits keep. -/
theorem run {operation : Operation} (hping : operation ≠ .ping)
    (hreceive : ∀ limit, operation ≠ .receive limit) : Keeps R excused operation.run := by
  cases operation with
  | ping => exact absurd rfl hping
  | status => exact h.status.map _
  | txStatus => exact h.txStatus.map _
  | configRx radio channel => exact (h.configRx radio channel).map _
  | prepareTx packet => exact (h.prepareTx packet).map _
  | awaitTx interval limit => exact (h.awaitTx interval limit).map _
  | receive limit => exact absurd rfl (hreceive limit)
  | reset target => exact (h.reset target).map _
  | resetAll withMcu => exact (h.resetAll withMcu).map _
  | enterBootloader => exact h.enterBootloader.map _
  | readRegister radio address => exact (h.statusByte _ _).map _
  | writeRegister radio address value => exact (h.writeRegister radio address value).map _
  | setRssiCoefficient radio coefficient => exact (h.setRssiCoefficient radio coefficient).map _

end Kept

/-! ### Reading events -/

theorem keeps_ofExcept [Std.Refl R] {α : Type} (x : Except Error α) :
    Keeps R excused (ofExcept x) := by
  cases x with
  | ok a => exact .pure a
  | error e => exact .throw e

section Receiving

variable [IsPreorder Dialogue R] (hnote : ∀ notice, Keeps R excused (note notice))
  (hread : Keeps R excused receiveFrame)

include hnote hread

/-- The reader of events keeps what reading a frame and notices keep. -/
theorem keeps_drain (limit index left : Nat) : Keeps R excused (drain limit index left) := by
  induction left generalizing index with
  | zero => exact .pure []
  | succ left ih =>
    refine hread.bind fun bytes ↦ .ite ((hnote _).bind fun _ ↦ ih _) ?_
    refine (keeps_ofExcept _).bind fun _ ↦ (keeps_ofExcept _).bind fun _ ↦ ?_
    exact (ih _).bind fun _ ↦ .pure _

/-- What the reading of frames keeps, collecting their packets keeps. -/
theorem keeps_collect (limit : Nat) (mailbox : Mailbox) :
    Keeps R excused (collect limit mailbox) := by
  refine .ite (.pure []) ((hnote _).bind fun _ ↦ ?_)
  refine (keeps_drain hnote hread _ _ _).bind fun packets ↦ .ite ?_ (.pure packets)
  exact (hnote _).bind fun _ ↦ .pure packets

end Receiving

/-! ### What links keep -/

section Links

variable {R : Link → Link → Prop}

/-- What a program on the link keeps of the link, it keeps in a dialogue. -/
theorem keeps_onLink {α : Type} {program : LinkM α} (h : Keeps R excused program) :
    Keeps (InvImage R Dialogue.link) excused (onLink program) where
  of_ok hrun := by
    obtain ⟨link, hlink, rfl⟩ := onLink_eq_ok_iff.1 hrun
    exact h.of_ok hlink
  of_error hrun := by
    obtain ⟨link, hlink, rfl⟩ := onLink_eq_error_iff.1 hrun
    exact h.of_error hlink

variable [IsPreorder Link R]

instance : IsPreorder Dialogue (InvImage R Dialogue.link) where
  refl d := Std.Refl.refl d.link
  trans d d' d'' := IsTrans.trans d.link d'.link d''.link

variable (h : Link.Kept R)

include h

/-- Whatever comes of it, an exchange keeps what the link keeps. -/
theorem keeps_exchange (request : Request) :
    Keeps (InvImage R Dialogue.link) (fun _ ↦ False) (exchange request) := by
  have hdraw : Keeps (InvImage R Dialogue.link) (fun _ ↦ False) drawId :=
    .of_outcome fun d ↦ .inl ⟨_, _, rfl, Std.Refl.refl d.link⟩
  refine hdraw.bind fun id ↦ (keeps_ofExcept _).bind fun payload ↦ ?_
  refine (keeps_onLink (h.keeps_sendRequest id request.code payload)).bind fun _ ↦ ?_
  refine Keeps.bind (Keeps.get.bind fun d ↦ ?_) fun bytes ↦ ?_
  · exact keeps_onLink (h.keeps_receiveFrame _ d.controller.replyTimeout)
  · refine (keeps_ofExcept _).bind fun frame ↦ (keeps_onLink (h.keeps_note _)).bind fun _ ↦ ?_
    refine Keeps.get.bind fun d ↦ .ite ?_ (.pure frame)
    exact (Keeps.throw _).bind fun _ ↦ .pure frame

/-- What a link keeps, and the passing of time, no operation breaks. -/
theorem kept_of_link (hpass : ∀ link time, R link (link.pass time)) :
    Kept (InvImage R Dialogue.link) (fun _ ↦ False) where
  ask request _ _ := (keeps_exchange h request).bind fun _ ↦ keeps_ofExcept _
  note notice := keeps_onLink (h.keeps_note notice)
  pass time := .of_outcome fun d ↦ .inl ⟨(), _, rfl, hpass d.link time⟩

end Links

end DialogueM

end LoraConcentrator
