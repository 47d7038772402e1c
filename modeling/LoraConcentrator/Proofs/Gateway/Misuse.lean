import LoraConcentrator.Proofs.Controller.Misuse
import LoraConcentrator.Proofs.Gateway.LifeCycle
import LoraConcentrator.Proofs.Gateway.Settings

/-!
# Misuses of a gateway

An operation of a gateway that was used wrongly is refused before it does anything: no byte is
written or taken off the link, no time passes, no port is opened, and the settings and the session
stay as they are, but for an id that the session may have drawn (`Gateway.step_of_misuse`). In a
session only the first of several exchanges can be refused like this, since none of those that
follow is ever a misuse (`GatewayM.SoundInSession`).

Two operations go their own way. Opening a session configures radios as well, so it may find only
after some exchanges that there is no such radio; refusals for the state of the session or for a
board without a path still come first (`Gateway.Operation.misuse`). Settings that list a channel too
many are applied up to it, which is what `GatewayM.applySettings_of_stopped` says of them.
-/

namespace LoraConcentrator

open Link Program

namespace Error

/-- The errors that say that a session is open, or that there is none, or that the board has no
path. -/
def isSessionMisuse : Error → Bool
  | alreadyStarted | notStarted | boardNotConfigured => true
  | _ => false

/-- What is a misuse of a session is a misuse of the library. -/
theorem isMisuse_of_isSessionMisuse {e : Error} (h : e.isSessionMisuse) : e.isMisuse := by
  cases e with
  | alreadyStarted | notStarted | boardNotConfigured => rfl
  | _ => cases h

end Error

namespace Gateway

/-- Nothing was set, opened, written, read or waited for, and of the session at most ids were used
up. -/
structure Untouched (g g' : Gateway) : Prop extends SameSettings g g' where
  session : Option.Rel Controller.DrewIds g.session g'.session
  link : SameButNotices g.link g'.link

instance : Std.Refl Untouched where
  refl g := by
    refine ⟨Std.Refl.refl g, ?_, Std.Refl.refl _⟩
    cases g.session with
    | none => exact .none
    | some controller => exact .some (Std.Refl.refl controller)

/-- A gateway is untouched when its link is, but for notices. -/
theorem untouched_of_link {g : Gateway} {link : Link} (h : SameButNotices g.link link) :
    g.Untouched { g with link := link } where
  toSameSettings := ⟨rfl, rfl, rfl⟩
  session := (Std.Refl.refl g : g.Untouched g).session
  link := h

end Gateway

namespace DialogueM

/-! ### Bringing a board up -/

theorem sound_checkFirmware (identity : Identity) : Sound (checkFirmware identity) := by
  have haccepted : Sound (do
      note (.firmwareAccepted identity.version)
      note (.euiRead identity.eui)) :=
    (sound_note _).bind fun _ ↦ sound_note _
  exact .ite (sound_refuse _ Bool.false_ne_true) haccepted

theorem sound_meet : Sound meet :=
  sound_ping.bind fun _ ↦ (sound_checkFirmware _).bind fun _ ↦
    (sound_resetAll false).bind fun _ ↦ sound_status.bind fun _ ↦ .pure _

/-- A radio that is not there is no matter of the session. -/
theorem avoids_configureRadio (radio1First : Bool) (channels : RxChannels)
    (radio : Fin rxChannelCount) :
    Avoids (·.isSessionMisuse) (configureRadio radio1First channels radio) := by
  have hconfig : Avoids (·.isSessionMisuse) (configRx (UInt8.ofNat radio) channels[radio]) := by
    intro d d' e h he
    obtain ⟨-, rfl, -⟩ := configRx_misuse h (Error.isMisuse_of_isSessionMisuse he)
    cases he
  have hnote (notice : Notice) : Avoids (·.isSessionMisuse) (note notice) :=
    (sound_note notice).mono fun _ ↦ Error.isMisuse_of_isSessionMisuse
  refine .ite (.ite ((hnote _).bind fun _ ↦ ?_) ((hnote _).bind fun _ ↦ hconfig)) (.pure _)
  exact .bind (.throw Bool.false_ne_true) fun _ ↦ (hnote _).bind fun _ ↦ hconfig

/-- No radio that is configured misuses the session. -/
theorem avoids_configureRadios (radio1First : Bool) (channels : RxChannels)
    (radios : List (Fin rxChannelCount)) :
    Avoids (·.isSessionMisuse) (configureRadios radio1First channels radios) := by
  induction radios with
  | nil => exact .pure ()
  | cons radio radios ih => exact (avoids_configureRadio _ _ radio).bind fun _ ↦ ih

/-- Bringing a board up does not misuse the session. -/
theorem avoids_bringUp (radio1First : Bool) (channels : RxChannels) :
    Avoids (·.isSessionMisuse) (bringUp radio1First channels) :=
  (sound_meet.mono fun _ ↦ Error.isMisuse_of_isSessionMisuse).bind fun _ ↦
    avoids_configureRadios _ _ _

end DialogueM

namespace GatewayM

open Gateway

variable {α β : Type}

/-- A program that leaves the gateway untouched where it fails with a misuse. -/
abbrev Guarded (program : GatewayM α) : Prop := Spares (·.isMisuse) Untouched program

/-! ### In a session -/

/-- In a session the program neither fails with a misuse nor ends the session. -/
structure SoundInSession (program : GatewayM α) : Prop where
  of_ok : ∀ {g g' : Gateway} {a : α}, g.isStarted → program g = .ok a g' → g'.isStarted
  of_error : ∀ {g g' : Gateway} {e : Error},
    g.isStarted → program g = .error e g' → ¬ e.isMisuse

namespace SoundInSession

theorem pure (a : α) : SoundInSession (pure a : GatewayM α) where
  of_ok hstarted h := by
    cases h
    exact hstarted
  of_error _ h := by
    cases h

theorem get : SoundInSession (get : GatewayM Gateway) where
  of_ok hstarted h := by
    cases h
    exact hstarted
  of_error _ h := by
    cases h

theorem of_onlyNotes {program : GatewayM α} {a : α} (h : OnlyNotes program a) :
    SoundInSession program where
  of_ok {g _ _} hstarted hok := by
    obtain ⟨link, -, hrun⟩ := h g
    cases hrun.symm.trans hok
    exact hstarted
  of_error _ herror := h.avoids (·.isMisuse) herror

theorem bind {x : GatewayM α} {f : α → GatewayM β} (hx : SoundInSession x)
    (hf : ∀ a, SoundInSession (f a)) : SoundInSession (x >>= f) where
  of_ok hstarted h := by
    obtain ⟨a, g, hxg, h⟩ := bind_eq_ok_iff.1 h
    exact (hf a).of_ok (hx.of_ok hstarted hxg) h
  of_error hstarted h := by
    rcases bind_eq_error_iff.1 h with h | ⟨a, g, hxg, h⟩
    · exact hx.of_error hstarted h
    · exact (hf a).of_error (hx.of_ok hstarted hxg) h

end SoundInSession

variable {g g' : Gateway}

/-- What fails in a session fails with what its dialogue failed with. -/
theorem exists_of_inSession_error {program : DialogueM α} {e : Error} (hstarted : g.isStarted)
    (h : inSession program g = .error e g') :
    ∃ controller d, g.session = some controller ∧ program ⟨controller, g.link⟩ = .error e d ∧
      g' = { g with session := some d.controller, link := d.link } := by
  obtain ⟨controller, hsession⟩ := Option.isSome_iff_exists.1 hstarted
  rw [inSession, hsession] at h
  dsimp only at h
  split at h
  · cases h
  · rename_i d hrun
    cases h
    exact ⟨controller, d, hsession, hrun, rfl⟩

/-- Only a started gateway gets through a session. -/
theorem isStarted_of_inSession_ok {program : DialogueM α} {a : α}
    (h : inSession program g = .ok a g') : g'.isStarted := by
  obtain ⟨_, _, -, -, rfl⟩ := inSession_eq_ok_iff.1 h
  rfl

/-- A program that is sound on its own is sound in a session. -/
theorem soundInSession_inSession {program : DialogueM α} (hprogram : DialogueM.Sound program) :
    SoundInSession (inSession program) where
  of_ok _ h := isStarted_of_inSession_ok h
  of_error {g g' e} hstarted h := by
    obtain ⟨controller, d, -, hrun, -⟩ := exists_of_inSession_error hstarted h
    exact hprogram hrun

/-- What is guarded in a dialogue is guarded in a session. -/
theorem guarded_inSession {program : DialogueM α} (hprogram : DialogueM.Guarded program) :
    Guarded (inSession program) := by
  intro g g' e h he
  by_cases hstarted : g.isStarted
  · obtain ⟨controller, d, hsession, hrun, rfl⟩ := exists_of_inSession_error hstarted h
    have huntouched := hprogram hrun he
    refine ⟨⟨rfl, rfl, rfl⟩, ?_, huntouched.link⟩
    rw [hsession]
    exact .some huntouched.controller
  · rw [inSession_of_stopped program hstarted] at h
    cases h
    exact Std.Refl.refl g

/-- Only the first part of what is done in a session may be a misuse. -/
theorem guarded_inSession_bind {program : DialogueM α} {f : α → GatewayM β}
    (hprogram : DialogueM.Guarded program) (hf : ∀ a, SoundInSession (f a)) :
    Guarded (inSession program >>= f) := by
  intro g g' e h he
  rcases bind_eq_error_iff.1 h with h | ⟨a, g₁, hfirst, h⟩
  · exact guarded_inSession hprogram h he
  · exact absurd he ((hf a).of_error (isStarted_of_inSession_ok hfirst) h)

/-- Fetching packets is a misuse only without a session. -/
theorem guarded_receive (limit : Nat) : Guarded (receive limit) := by
  refine guarded_inSession_bind (.of_avoids (DialogueM.sound_receive limit)) fun packets ↦ ?_
  refine (soundInSession_inSession DialogueM.sound_status).bind fun status ↦ ?_
  exact (SoundInSession.of_onlyNotes (onlyNotes_noteCounters _ _)).bind fun _ ↦
    SoundInSession.get.bind fun _ ↦ .of_onlyNotes (onlyNotes_completePackets _ _)

/-- The notice of a packet comes before the guard on the radios, and is all there is. -/
theorem guarded_noteAndPrepareTx (packet : TxPacket) : DialogueM.Guarded (do
    DialogueM.note (.sending packet)
    DialogueM.prepareTx packet) := by
  refine Spares.after (.of_avoids (DialogueM.sound_note _)) (fun d d' _ h ↦ ?_) fun _ ↦
    DialogueM.guarded_prepareTx packet
  rw [DialogueM.note_eq_ok_iff.1 h]
  exact DialogueM.untouched_note d _

/-- Sending is a misuse only before anything is written. -/
theorem guarded_sendAndWait (packet : TxPacket) (limit : Duration) :
    Guarded (sendAndWait packet limit) :=
  Spares.get_bind fun _ ↦ guarded_inSession_bind (guarded_noteAndPrepareTx packet) fun _ ↦
    soundInSession_inSession (DialogueM.sound_awaitTx _ _)

theorem guarded_txActivity : Guarded txActivity := by
  refine Spares.get_bind fun g ↦ .ite ?_ (.of_avoids (.pure _))
  refine guarded_inSession_bind (.of_avoids DialogueM.sound_txStatus) fun status ↦ ?_
  cases status with
  | unknown code => exact (SoundInSession.of_onlyNotes (onlyNotes_note _)).bind fun _ ↦ .pure _
  | _ => exact .pure _

/-- The value that a session gives, taken apart. -/
theorem guarded_reading {program : DialogueM α} (hprogram : DialogueM.Sound program)
    (f : α → β) : Guarded (do return f (← inSession program)) :=
  guarded_inSession_bind (.of_avoids hprogram) fun _ ↦ .pure _

/-- Entering the bootloader is a misuse only without a session. -/
theorem guarded_enterBootloader : Guarded enterBootloader := by
  intro g g' e h he
  by_cases hstarted : g.isStarted
  · rw [enterBootloader] at h
    split at h
    · cases h
    · rename_i hrun
      cases h
      exact absurd he
        ((soundInSession_inSession DialogueM.sound_enterBootloader).of_error hstarted hrun)
  · rw [needsSession_enterBootloader g hstarted] at h
    cases h
    exact Std.Refl.refl g

/-! ### Opening the link -/

/-- Whatever comes of opening a path is no misuse. -/
theorem avoids_openPath (path : String) (settings : LinkSettings) :
    Avoids (·.isMisuse) (LinkM.openPath path settings) := by
  refine Avoids.bind (fun _ _ _ h ↦ by cases h) fun _ ↦ Avoids.get.bind fun link ↦ ?_
  have hrefuse (failure : PortFailure) : Avoids (·.isMisuse) (LinkM.refuse path failure) := by
    intro link link' e h
    cases h
    exact Bool.false_ne_true
  split
  · exact .ite (.pure ()) (.throw Bool.false_ne_true)
  · split
    · intro link link' e h
      cases h
    · exact hrefuse _
  · exact hrefuse _

/-- The path is looked at before anything is opened. -/
theorem guarded_openLink : Guarded openLink := by
  refine Spares.get_bind fun g ↦ .ite (Spares.throw Error.boardNotConfigured) (.of_avoids ?_)
  intro g g' e h
  obtain ⟨link, hpath, -⟩ := onLink_eq_error_iff.1 h
  exact avoids_openPath _ _ hpath

theorem guarded_eui : Guarded eui := by
  refine Spares.get_bind fun g ↦ .ite (guarded_reading DialogueM.sound_ping _) ?_
  refine guarded_openLink.bind fun _ ↦ Avoids.get.bind fun g ↦ ?_
  intro g₁ g₂ e h
  rcases hping : DialogueM.ping ⟨g.newController, g.link⟩ with ⟨identity, d⟩ | ⟨e', d⟩
  · rw [hping] at h
    cases h
  · rw [hping] at h
    cases h
    exact DialogueM.sound_ping hping

/-- Where a session is not opened for the state of the gateway, nothing was done. -/
theorem untouched_of_startAttached_error {e : Error} (h : startAttached g = .error e g')
    (he : e.isSessionMisuse) : g.Untouched g' := by
  by_cases hstarted : g.isStarted
  · rw [startAttached_of_isStarted hstarted] at h
    cases h
    exact untouched_of_link ⟨_, rfl⟩
  · rw [startAttached_of_stopped hstarted] at h
    split at h
    · cases h
    · rename_i hbringUp
      cases h
      exact absurd he (DialogueM.avoids_bringUp _ _ hbringUp)

/-- A start that misuses the session touches nothing. -/
theorem untouched_of_start_error {e : Error} (h : start g = .error e g')
    (he : e.isSessionMisuse) : g.Untouched g' := by
  by_cases hstarted : g.isStarted
  · rw [start_of_isStarted hstarted] at h
    cases h
    exact untouched_of_link ⟨_, rfl⟩
  · rw [start_of_stopped hstarted] at h
    rcases bind_eq_error_iff.1 h with hopen | ⟨_, g₁, hopen, hattach⟩
    · exact guarded_openLink hopen (Error.isMisuse_of_isSessionMisuse he)
    · -- the link is open by now, so what is left to fail is no matter of the session
      obtain ⟨link, rfl⟩ := openLink_ok hopen
      have hstopped : ¬ ({ g with link := link } : Gateway).isStarted := hstarted
      rw [startAttached_of_stopped hstopped] at hattach
      split at hattach
      · cases hattach
      · rename_i hbringUp
        cases hattach
        exact absurd he (DialogueM.avoids_bringUp _ _ hbringUp)

/-! ### Setting the board -/

/-- Configuring is a misuse only while there is a session. -/
theorem guarded_ensureStopped : Guarded ensureStopped := by
  intro g g' e h _
  by_cases hstarted : g.isStarted
  · rw [ensureStopped_of_isStarted hstarted] at h
    cases h
    exact untouched_of_link ⟨_, rfl⟩
  · rw [ensureStopped_of_stopped hstarted] at h
    cases h

theorem guarded_configureBoard (board : BoardSettings) : Guarded (configureBoard board) := by
  refine guarded_ensureStopped.bind fun _ g g' e h ↦ ?_
  cases h

theorem guarded_configureTxChannel (channel : TxChannel) :
    Guarded (configureTxChannel channel) := by
  refine guarded_ensureStopped.bind fun _ g g' e h ↦ ?_
  cases h

/-- A channel that no radio has is set nowhere. -/
theorem guarded_configureRxChannel (index : UInt8) (channel : RxChannel) :
    Guarded (configureRxChannel index channel) := by
  intro g g' e h he
  rcases bind_eq_error_iff.1 h with h | ⟨_, g₁, hok, -⟩
  · exact guarded_ensureStopped h he
  have hstopped : ¬ g.isStarted := by
    intro hstarted
    rw [ensureStopped_of_isStarted hstarted] at hok
    cases hok
  by_cases hindex : index.toNat < rxChannelCount
  · rw [configureRxChannel_of_lt hstopped hindex] at h
    cases h
  · rw [configureRxChannel_of_le hstopped (Nat.le_of_not_lt hindex)] at h
    cases h
    exact Std.Refl.refl g

/-- Settings that list no more channels than there are touch nothing when they are refused. -/
theorem guarded_applySettings {settings : Settings}
    (hfits : settings.rxChannels.length ≤ rxChannelCount) : Guarded (applySettings settings) := by
  intro g g' e h he
  by_cases hstarted : g.isStarted
  · have hboard : NeedsStopped (configureBoard settings.board) :=
      needsStopped_ensureStopped.bind _
    rw [applySettings, bind_of_error (hboard g hstarted)] at h
    cases h
    exact untouched_of_link ⟨_, rfl⟩
  · obtain ⟨link, -, happly⟩ := applySettings_of_stopped hstarted settings
    rw [happly, if_pos hfits] at h
    cases h

/-- A gateway that is not replaced is left with the notices of the attempt. -/
theorem guarded_replaceBy (settings : Settings) : Guarded (replaceBy settings) := by
  intro g g' e h _
  have hnew : ¬ ({ link := g.link } : Gateway).isStarted := Bool.false_ne_true
  obtain ⟨link, hlink, happly⟩ := applySettings_of_stopped hnew settings
  rw [replaceBy, happly] at h
  split at h
  · cases h
  · rename_i herror
    cases h
    split at herror
    · cases herror
    · cases herror
      exact untouched_of_link hlink

end GatewayM

namespace Gateway

open GatewayM

namespace Operation

/-- The errors that an operation can only fail with before it does anything. -/
def misuse (operation : Operation) (e : Error) : Bool :=
  if operation.opens then e.isSessionMisuse else e.isMisuse

/-- A program is guarded when it is made an operation. -/
theorem guarded_completing {program : GatewayM Unit} (h : Guarded program) :
    Guarded (completing program) :=
  h.bind fun _ ↦ .pure _

/-- An operation that opens no session leaves the gateway untouched where it fails with a misuse. -/
theorem guarded_run {operation : Operation} (hopens : ¬ operation.opens)
    (hfits : ∀ settings, operation = .applySettings settings →
      settings.rxChannels.length ≤ rxChannelCount) :
    Guarded operation.run := by
  have guarded_session {program : DialogueM Unit} (h : DialogueM.Guarded program) :
      Guarded (completing (inSession program)) :=
    guarded_completing (guarded_inSession h)
  cases operation with
  | configureBoard board => exact guarded_completing (guarded_configureBoard board)
  | configureRxChannel index channel =>
    exact guarded_completing (guarded_configureRxChannel index channel)
  | configureTxChannel channel => exact guarded_completing (guarded_configureTxChannel channel)
  | applySettings settings =>
    exact guarded_completing (guarded_applySettings (hfits settings rfl))
  | replaceBy settings => exact guarded_completing (guarded_replaceBy settings)
  | rxChannel index => exact .of_avoids (Avoids.get.bind fun _ ↦ .pure _)
  | txChannel => exact .of_avoids (Avoids.get.bind fun _ ↦ .pure _)
  | start | startAttached => exact absurd rfl hopens
  | stop =>
    refine guarded_completing fun g g' e h _ ↦ ?_
    obtain ⟨g₁, hok, -⟩ := stop_ok g
    rw [hok] at h
    cases h
  | receive limit => exact (guarded_receive limit).map _
  | send packet => exact guarded_session (guarded_noteAndPrepareTx packet)
  | sendAndWait packet limit => exact (guarded_sendAndWait packet limit).map _
  | txActivity => exact guarded_txActivity.map _
  | rxActivity =>
    exact Spares.map _ (.get_bind fun _ ↦ .ite (.of_avoids (.pure _)) (.of_avoids (.pure _)))
  | abortTx => exact guarded_session (DialogueM.guarded_reset .tx)
  | reset withMcu => exact guarded_session (.of_avoids (DialogueM.sound_resetAll withMcu))
  | pulseCounter => exact (guarded_reading DialogueM.sound_status _).map _
  | instantCounter => exact (guarded_reading DialogueM.sound_status _).map _
  | temperature => exact (guarded_reading DialogueM.sound_status _).map _
  | eui => exact guarded_eui.map _
  | readRegister radio address =>
    exact (guarded_inSession (.of_avoids (DialogueM.sound_readRegister radio address))).map _
  | writeRegister radio address value =>
    exact guarded_session (.of_avoids (DialogueM.sound_writeRegister radio address value))
  | setRssiCoefficient radio coefficient =>
    exact guarded_session (.of_avoids (DialogueM.sound_setRssiCoefficient radio coefficient))
  | enterBootloader => exact guarded_completing guarded_enterBootloader

/-- An operation that opens a session touches nothing when it misuses one. -/
theorem untouched_of_opens {operation : Operation} (hopens : operation.opens) {g g' : Gateway}
    {e : Error} (h : operation.run g = .error e g') (he : e.isSessionMisuse) :
    g.Untouched g' := by
  have of_program {program : GatewayM Unit} (h : completing program g = .error e g') :
      program g = .error e g' := by
    rcases bind_eq_error_iff.1 h with h | ⟨_, _, -, h⟩
    · exact h
    · exact (pure_ne_error.1 h).elim
  cases operation with
  | start => exact untouched_of_start_error (of_program h) he
  | startAttached => exact untouched_of_startAttached_error (of_program h) he
  | _ => cases hopens

end Operation

/-- **A misuse of a gateway costs nothing**: an operation that fails with one has touched neither
the settings nor the link, and of the session at most an id was used up. -/
theorem step_of_misuse {operation : Operation} {g g' : Gateway} {e : Error}
    (hfits : ∀ settings, operation = .applySettings settings →
      settings.rxChannels.length ≤ rxChannelCount)
    (h : step operation g = (.error e, g')) (he : operation.misuse e) : g.Untouched g' := by
  rcases hrun : operation.run g with ⟨answer, g₁⟩ | ⟨e', g₁⟩
  · rw [step_of_ok hrun] at h
    cases h
  · rw [step_of_error hrun] at h
    cases h
    unfold Operation.misuse at he
    split at he
    · rename_i hopens
      exact Operation.untouched_of_opens hopens hrun he
    · rename_i hopens
      exact Operation.guarded_run hopens hfits hrun he

/-- A session that knows no radio sends nothing. -/
theorem step_of_misuse_send :
    let g : Gateway := { session := some {} }
    (step (.send {}) g).1 = .error .noRxRadio ∧ g.Untouched (step (.send {}) g).2 :=
  ⟨rfl, step_of_misuse (fun _ h ↦ by cases h) (Prod.ext rfl rfl) rfl⟩

end Gateway

end LoraConcentrator
