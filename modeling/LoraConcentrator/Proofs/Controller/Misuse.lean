import LoraConcentrator.Proofs.Controller.Kept
import LoraConcentrator.Proofs.Link.Notices

/-!
# Uses that are refused before a byte is written

Some errors say that the library was used wrongly: a session is open or is not, the board has no
path, no radio is known, or there is no such radio (`Error.isMisuse`). An operation of a controller
finds such a fault before it writes anything, so all that is left of it is an id that was drawn
(`Controller.step_misuse`). The reset of a radio that no board has is the one request that cannot be
written; every other fault is found by a guard in front of the first exchange, and what an exchange
fails with is never one of these errors.
-/

namespace LoraConcentrator

open Link Program

namespace Error

/-- The errors that say that the library was used wrongly. -/
def isMisuse : Error → Bool
  | alreadyStarted | notStarted | boardNotConfigured | noRxRadio | invalidChannel .. => true
  | _ => false

/-- An error that leaves the link out of step is no misuse. -/
theorem not_isMisuse_of_desynchronizes {e : Error} (h : e.desynchronizes) : ¬ e.isMisuse := by
  cases e with
  | alreadyStarted | notStarted | boardNotConfigured | noRxRadio | invalidChannel => cases h
  | _ => exact Bool.false_ne_true

end Error

/-- At most ids were drawn. -/
def Controller.DrewIds (c c' : Controller) : Prop := ∃ ids, c' = c.withIds ids

instance : IsPreorder Controller Controller.DrewIds where
  refl c := ⟨c.ids, rfl⟩
  trans _ _ _ := by
    rintro ⟨ids, rfl⟩ ⟨ids', rfl⟩
    exact ⟨ids', rfl⟩

/-- Nothing was written, read or waited for, and of the controller at most ids were used up. -/
structure Dialogue.Untouched (d d' : Dialogue) : Prop where
  controller : d.controller.DrewIds d'.controller
  link : SameButNotices d.link d'.link

instance : IsPreorder Dialogue Dialogue.Untouched where
  refl _ := ⟨Std.Refl.refl _, Std.Refl.refl _⟩
  trans _ _ _ h h' := ⟨IsTrans.trans _ _ _ h.controller h'.controller,
    IsTrans.trans _ _ _ h.link h'.link⟩

namespace DialogueM

variable {α : Type}

/-- A program that does not fail with a misuse. -/
abbrev Sound (program : DialogueM α) : Prop := Avoids (·.isMisuse) program

/-- A program that leaves the dialogue untouched where it fails with a misuse. -/
abbrev Guarded (program : DialogueM α) : Prop := Spares (·.isMisuse) Dialogue.Untouched program

/-! ### Steps -/

theorem untouched_note (d : Dialogue) (notice : Notice) :
    d.Untouched { d with link := d.link.note notice } :=
  ⟨Std.Refl.refl _, _, rfl⟩

theorem sound_note (notice : Notice) : Sound (note notice) :=
  fun _ _ _ h ↦ absurd h fun h ↦ note_ne_error.1 h

theorem sound_pass (time : Duration) : Sound (pass time) := by
  intro d d' e h
  cases h

/-- What cannot be read is no misuse. -/
theorem sound_ofExcept {x : Except Error α} (hx : Desynchronizing x) : Sound (ofExcept x) :=
  fun _ _ e h ↦ Error.not_isMisuse_of_desynchronizes (hx e (ofExcept_eq_error_iff.1 h).1)

/-- An event that cannot be read is no misuse. -/
theorem sound_receiveFrame : Sound receiveFrame :=
  fun _ _ _ h ↦ Error.not_isMisuse_of_desynchronizes (receiveFrame_error h).2.1

/-- What may follow a refusal: a notice and the error. -/
theorem sound_refuse (notice : Notice) {e : Error} (he : ¬ e.isMisuse) :
    Sound (do note notice; throw e : DialogueM α) :=
  (sound_note notice).bind fun _ ↦ .throw he

/-! ### Exchanges -/

section Asking

variable {request : Request} {decode : Frame → Except Error α}

/-- Only the reset of a radio cannot be written. -/
theorem exists_radio_of_payload_error {e : Error} (h : request.payload = .error e) :
    ∃ radio, request = .reset (.rx radio) := by
  cases request with
  | reset target =>
    cases target with
    | rx radio => exact ⟨radio, rfl⟩
    | _ => cases h
  | _ => cases h

/-- An exchange leaves the dialogue untouched where it fails with a misuse. -/
theorem guarded_ask (hdecode : ∀ frame, Desynchronizing (decode frame)) :
    Guarded (ask request decode) := by
  refine Spares.bind (fun d d' e h hmisuse ↦ ?_) fun frame ↦ sound_ofExcept (hdecode frame)
  obtain ⟨hcontroller, ⟨-, hlink⟩ | ⟨_, _, _, -, he, -⟩⟩ := exchange_error h
  · refine ⟨⟨_, hcontroller⟩, ?_⟩
    rw [hlink]
    exact Std.Refl.refl _
  · exact absurd hmisuse (Error.not_isMisuse_of_desynchronizes he)

/-- An exchange whose request can be written does not fail with a misuse. -/
theorem sound_ask (hrequest : ∀ radio, request ≠ .reset (.rx radio))
    (hdecode : ∀ frame, Desynchronizing (decode frame)) : Sound (ask request decode) := by
  intro d d' e h
  rcases hpayload : request.payload with e' | payload
  · obtain ⟨radio, hreset⟩ := exists_radio_of_payload_error hpayload
    exact absurd hreset (hrequest radio)
  · exact Error.not_isMisuse_of_desynchronizes (desynchronizes_of_ask_error hpayload hdecode h)

/-- Asking for a status byte is no misuse, unless a reset names a radio that no device has. -/
theorem sound_askStatus {reply : ReplyCode} (hrequest : ∀ radio, request ≠ .reset (.rx radio)) :
    Sound (ask request (statusByte reply)) :=
  sound_ask hrequest fun frame ↦ desynchronizing_statusByte frame reply

end Asking

/-! ### Operations that are never a misuse -/

theorem sound_ping : Sound ping := by
  refine (sound_ask (by simp) desynchronizing_identity).bind fun identity ↦ ?_
  refine Avoids.bind (fun d d' e h ↦ by cases h) fun _ ↦ ?_
  exact (sound_note _).bind fun _ ↦ .pure _

theorem sound_status : Sound status := by
  refine Avoids.get.bind fun d ↦ ?_
  refine (sound_ask (by simp) (desynchronizing_deviceStatus · d.controller.rxRadios)).bind
    fun _ ↦ ?_
  exact (sound_note _).bind fun _ ↦ .pure _

theorem sound_txStatus : Sound txStatus := (sound_askStatus (by simp)).bind fun _ ↦ .pure _

/-- By induction on the arrivals that are left, as each turn but the last uses some up. -/
theorem sound_pollTx (interval limit start : Duration) : Sound (pollTx interval limit start) := by
  intro d d' e h
  fun_induction pollTx interval limit start d with
  | case1 d e' d₁ hstatus =>
    cases h
    exact sound_txStatus hstatus
  | case5 d status d₁ hstatus _ _ _ _ ih => exact ih h
  | case3 => cases h
  | case2 | case4 | case6 =>
    cases h
    exact Bool.false_ne_true

theorem sound_awaitTx (interval limit : Duration) : Sound (awaitTx interval limit) :=
  Avoids.get.bind fun _ ↦ sound_pollTx _ _ _

/-- Events that cannot be read are no misuse, wherever they come. -/
theorem sound_drain (limit index left : Nat) : Sound (drain limit index left) := by
  induction left generalizing index with
  | zero => exact .pure []
  | succ left ih =>
    refine sound_receiveFrame.bind fun bytes ↦ .ite ((sound_note _).bind fun _ ↦ ih _) ?_
    refine (sound_ofExcept (desynchronizing_parse bytes)).bind fun frame ↦ ?_
    refine (sound_ofExcept (desynchronizing_rxPacket frame)).bind fun _ ↦ ?_
    exact (ih _).bind fun _ ↦ .pure _

theorem sound_receive (limit : Nat) : Sound (receive limit) := by
  refine (sound_ask (by simp) desynchronizing_mailbox).bind fun mailbox ↦ ?_
  have hcollect : Sound (collect limit mailbox) := by
    refine .ite (.pure []) ((sound_note _).bind fun _ ↦ ?_)
    refine (sound_drain _ _ _).bind fun packets ↦ .ite ?_ (.pure packets)
    exact (sound_note _).bind fun _ ↦ .pure packets
  exact .ite ((sound_note _).bind fun _ ↦ hcollect) hcollect

/-- A reset of anything but a single radio is no misuse. -/
theorem sound_reset {target : ResetTarget} (h : ∀ radio, target ≠ .rx radio) :
    Sound (reset target) := by
  have hrequest (radio : UInt8) : Request.reset target ≠ .reset (.rx radio) :=
    fun heq ↦ h radio (Request.reset.inj heq)
  exact (sound_askStatus hrequest).bind fun _ ↦
    .ite (sound_refuse _ Bool.false_ne_true) (.pure _)

theorem sound_resetAll (withMcu : Bool) : Sound (resetAll withMcu) := by
  refine (sound_reset (by simp)).bind fun _ ↦ (sound_reset (by simp)).bind fun _ ↦ ?_
  exact .ite ((sound_reset (by simp)).bind fun _ ↦ sound_pass _) (sound_pass _)

theorem sound_enterBootloader : Sound enterBootloader :=
  (sound_ask (by simp) fun frame ↦ desynchronizing_expect frame _ _).bind fun _ ↦ sound_note _

theorem sound_readRegister (radio : UInt8) (address : UInt16) :
    Sound (readRegister radio address) :=
  sound_askStatus (by simp)

theorem sound_writeRegister (radio : UInt8) (address : UInt16) (value : UInt8) :
    Sound (writeRegister radio address value) :=
  (sound_ask (by simp) fun frame ↦ desynchronizing_expect frame _ _).bind fun _ ↦ .pure _

theorem sound_setRssiCoefficient (radio : UInt8) (coefficient : Binary.Single) :
    Sound (setRssiCoefficient radio coefficient) :=
  (sound_askStatus (by simp)).bind fun _ ↦ .ite (.throw Bool.false_ne_true) (.pure _)

/-! ### Operations with a guard -/

/-- Configuring a radio is a misuse only where the radio is not known, and then it did nothing. -/
theorem configRx_misuse {d d' : Dialogue} {e : Error} {radio : UInt8} {channel : RxChannel}
    (h : configRx radio channel d = .error e d') (he : e.isMisuse) :
    d.controller.rxRadios ≤ radio ∧ e = .invalidChannel radio d.controller.rxRadios ∧ d' = d := by
  rw [configRx, get_bind] at h
  split at h
  · exact ⟨‹_›, throw_eq_error_iff.1 h⟩
  · refine absurd he (Avoids.bind (sound_askStatus (by simp)) (fun code ↦ ?_) h)
    split
    · exact .pure _
    · exact sound_refuse _ Bool.false_ne_true

/-- Configuring a radio is a misuse only before anything is written. -/
theorem guarded_configRx (radio : UInt8) (channel : RxChannel) :
    Guarded (configRx radio channel) := by
  intro d d' e h he
  obtain ⟨-, -, rfl⟩ := configRx_misuse h he
  exact Std.Refl.refl _

/-- Loading a packet is a misuse only before anything is written. -/
theorem guarded_prepareTx (packet : TxPacket) : Guarded (prepareTx packet) := by
  refine Spares.get_bind fun d ↦ .ite (Spares.throw Error.noRxRadio) (.of_avoids ?_)
  refine (sound_askStatus (by simp)).bind fun code ↦ ?_
  split
  · exact .pure _
  · exact sound_refuse _ Bool.false_ne_true

/-- A reset is a misuse only before anything is written. -/
theorem guarded_reset (target : ResetTarget) : Guarded (reset target) :=
  (guarded_ask fun frame ↦ desynchronizing_statusByte frame _).bind fun _ ↦
    .ite (sound_refuse _ Bool.false_ne_true) (.pure _)

end DialogueM

namespace Controller

open DialogueM

/-- No operation is a misuse once it has written something. -/
theorem guarded_run (operation : Operation) : Guarded operation.run := by
  cases operation with
  | ping => exact .of_avoids (sound_ping.map _)
  | status => exact .of_avoids (sound_status.map _)
  | txStatus => exact .of_avoids (sound_txStatus.map _)
  | configRx radio channel => exact (guarded_configRx radio channel).map _
  | prepareTx packet => exact (guarded_prepareTx packet).map _
  | awaitTx interval limit => exact .of_avoids ((sound_awaitTx interval limit).map _)
  | receive limit => exact .of_avoids ((sound_receive limit).map _)
  | reset target => exact (guarded_reset target).map _
  | resetAll withMcu => exact .of_avoids ((sound_resetAll withMcu).map _)
  | enterBootloader => exact .of_avoids (sound_enterBootloader.map _)
  | readRegister radio address => exact .of_avoids ((sound_readRegister radio address).map _)
  | writeRegister radio address value =>
    exact .of_avoids ((sound_writeRegister radio address value).map _)
  | setRssiCoefficient radio coefficient =>
    exact .of_avoids ((sound_setRssiCoefficient radio coefficient).map _)

/-- **A misuse costs nothing**: an operation of a controller that fails with one wrote no byte, took
none off the link and let no time pass, and the controller is the one it was but for its ids. -/
theorem step_misuse {operation : Operation} {d d' : Dialogue} {e : Error}
    (h : step operation d = (.error e, d')) (he : e.isMisuse) : d.Untouched d' := by
  rcases hrun : operation.run d with ⟨answer, d₁⟩ | ⟨e', d₁⟩
  · rw [step_of_ok hrun] at h
    cases h
  · rw [step_of_error hrun] at h
    cases h
    exact guarded_run operation hrun he

/-- The reset of a fourth radio uses up an id, and that is all. -/
theorem step_misuse_reset :
    let d : Dialogue := {}
    (step (.reset (.rx 3)) d).1 = .error (.invalidChannel 3 3) ∧
      d.Untouched (step (.reset (.rx 3)) d).2 :=
  ⟨rfl, step_misuse (Prod.ext rfl rfl) rfl⟩

end Controller

end LoraConcentrator
