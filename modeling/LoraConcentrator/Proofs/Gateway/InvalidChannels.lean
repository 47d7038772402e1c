import LoraConcentrator.Proofs.Gateway.Misuse
import LoraConcentrator.Proofs.Settings.Rereading

/-!
# Channels reported as invalid

An error that reports a channel as invalid names it with the number of channels there are. It denies
a channel that exists where the one named is among them (`Error.deniesChannel`); a program that
never does so is truthful. Every operation of a controller and of a gateway is truthful: the guards
name what they refuse, and the reset of a radio that no board has names that radio.

Only the reader of settings is not. It names the last channel listed by one byte, so from the 257th
listed channel on the count starts again (`Settings.ofText_eq_invalidChannel_iff`), and a text that
lists 257 channels is refused for the first of them (`Settings.ofText_crowded_denies`). For
everything that can be asked of the library together, `Call.invalidChannel_outOfRange` says when the
channel that is named is out of range.
-/

namespace LoraConcentrator

open Link Program

namespace Error

/-- Whether an error reports a channel as invalid that is among those there are. -/
def deniesChannel : Error → Bool
  | invalidChannel index available => decide (index < available)
  | _ => false

/-- Reporting a channel as invalid is a misuse. -/
theorem isMisuse_of_deniesChannel {e : Error} (h : e.deniesChannel) : e.isMisuse := by
  cases e with
  | invalidChannel => rfl
  | _ => cases h

/-- A channel is denied where its index is in range. -/
theorem deniesChannel_iff {index available : UInt8} :
    (invalidChannel index available).deniesChannel ↔ ¬ available ≤ index := by
  rw [deniesChannel, decide_eq_true_eq, UInt8.not_le]

end Error

/-- A program that reports no channel as invalid that exists. -/
abbrev Truthful {σ α : Type} (program : EStateM Error σ α) : Prop :=
  Avoids (·.deniesChannel) program

/-- What is never a misuse is truthful. -/
theorem truthful_of_sound {σ α : Type} {program : EStateM Error σ α}
    (h : Avoids (·.isMisuse) program) : Truthful program :=
  h.mono fun _ ↦ Error.isMisuse_of_deniesChannel

/-! ### Requests -/

/-- The reset of a radio that no board has names that radio. -/
theorem Request.not_deniesChannel_of_payload {r : Request} {e : Error}
    (h : r.payload = .error e) : ¬ e.deniesChannel := by
  obtain ⟨radio, -, hle, rfl⟩ := payload_eq_error_iff.1 h
  rw [Error.deniesChannel_iff, not_not]
  exact hle

/-- A request without a frame denies no channel that is there. -/
theorem Request.not_deniesChannel_of_frame {r : Request} {id : UInt8} {e : Error}
    (h : r.frame id = .error e) : ¬ e.deniesChannel := by
  rw [frame] at h
  rcases hpayload : r.payload with e' | payload
  · rw [hpayload] at h
    cases h
    exact not_deniesChannel_of_payload hpayload
  · rw [hpayload] at h
    cases h.symm.trans (requestFrame_eq_ok id hpayload)

/-- Nor does one that does not fit into what is left of a buffer. -/
theorem Request.not_deniesChannel_of_fill {r : Request} {held : Bytes} {e : Error}
    (h : (r.fill held).1 = .error e) : ¬ e.deniesChannel := by
  rw [fill_eq] at h
  rcases hpayload : r.payload with e' | payload
  · rw [hpayload] at h
    cases h
    exact not_deniesChannel_of_payload hpayload
  · rw [hpayload] at h
    cases h

/-! ### Operations of a controller -/

namespace DialogueM

variable {α : Type}

/-- An exchange denies no channel that is there. -/
theorem truthful_ask {request : Request} {decode : Frame → Except Error α}
    (hdecode : ∀ frame, Desynchronizing (decode frame)) : Truthful (ask request decode) := by
  refine Avoids.bind (fun d d' e h ↦ ?_) fun frame ↦
    truthful_of_sound (sound_ofExcept (hdecode frame))
  obtain ⟨-, ⟨hpayload, -⟩ | ⟨_, _, _, -, he, -⟩⟩ := exchange_error h
  · exact Request.not_deniesChannel_of_payload hpayload
  · exact fun hdenies ↦
      Error.not_isMisuse_of_desynchronizes he (Error.isMisuse_of_deniesChannel hdenies)

theorem truthful_reset (target : ResetTarget) : Truthful (reset target) := by
  refine (truthful_ask fun frame ↦ desynchronizing_statusByte frame _).bind fun code ↦ ?_
  exact .ite (truthful_of_sound (sound_refuse _ Bool.false_ne_true)) (.pure _)

/-- A radio is refused for being none of those that are known. -/
theorem truthful_configRx (radio : UInt8) (channel : RxChannel) :
    Truthful (configRx radio channel) := by
  intro d d' e h hdenies
  obtain ⟨hle, rfl, -⟩ := configRx_misuse h (Error.isMisuse_of_deniesChannel hdenies)
  exact Error.deniesChannel_iff.1 hdenies hle

/-- Loading a packet is refused for want of a radio, which denies none. -/
theorem truthful_prepareTx (packet : TxPacket) : Truthful (prepareTx packet) := by
  refine Avoids.get.bind fun d ↦ .ite (.throw Bool.false_ne_true) (truthful_of_sound ?_)
  refine (sound_askStatus (by simp)).bind fun code ↦ ?_
  split
  · exact .pure _
  · exact sound_refuse _ Bool.false_ne_true

end DialogueM

namespace Controller

open DialogueM

/-- No operation of a controller denies a channel that is there. -/
theorem truthful_run (operation : Operation) : Truthful operation.run := by
  cases operation with
  | ping => exact (truthful_of_sound sound_ping).map _
  | status => exact (truthful_of_sound sound_status).map _
  | txStatus => exact (truthful_of_sound sound_txStatus).map _
  | configRx radio channel => exact (truthful_configRx radio channel).map _
  | prepareTx packet => exact (truthful_prepareTx packet).map _
  | awaitTx interval limit => exact (truthful_of_sound (sound_awaitTx interval limit)).map _
  | receive limit => exact (truthful_of_sound (sound_receive limit)).map _
  | reset target => exact (truthful_reset target).map _
  | resetAll withMcu => exact (truthful_of_sound (sound_resetAll withMcu)).map _
  | enterBootloader => exact (truthful_of_sound sound_enterBootloader).map _
  | readRegister radio address =>
    exact (truthful_of_sound (sound_readRegister radio address)).map _
  | writeRegister radio address value =>
    exact (truthful_of_sound (sound_writeRegister radio address value)).map _
  | setRssiCoefficient radio coefficient =>
    exact (truthful_of_sound (sound_setRssiCoefficient radio coefficient)).map _

end Controller

/-! ### Operations of a gateway -/

namespace GatewayM

variable {α β : Type}

/-- What is truthful on its own is truthful in a session. -/
theorem truthful_inSession {program : DialogueM α} (hprogram : Truthful program) :
    Truthful (inSession program) := by
  intro g g' e h
  by_cases hstarted : g.isStarted
  · obtain ⟨controller, d, -, hrun, -⟩ := exists_of_inSession_error hstarted h
    exact hprogram hrun
  · rw [inSession_of_stopped program hstarted] at h
    cases h
    exact Bool.false_ne_true

/-- What is never a misuse is truthful in a session. -/
theorem truthful_soundInSession {program : DialogueM α} (hprogram : DialogueM.Sound program) :
    Truthful (inSession program) :=
  truthful_inSession (truthful_of_sound hprogram)

/-! #### Settings -/

theorem truthful_ensureStopped : Truthful ensureStopped :=
  Avoids.get.bind fun _ ↦
    .ite (((onlyNotes_note _).avoids _).bind fun _ ↦ .throw Bool.false_ne_true) (.pure ())

theorem truthful_configureBoard (board : BoardSettings) : Truthful (configureBoard board) := by
  refine truthful_ensureStopped.bind fun _ g g' e h ↦ ?_
  cases h

/-- A channel is refused for being none of those that a board has. -/
theorem truthful_configureRxChannel (index : UInt8) (channel : RxChannel) :
    Truthful (configureRxChannel index channel) := by
  refine truthful_ensureStopped.bind fun _ ↦ ?_
  split
  · intro g g' e h
    cases h
  · rename_i hle
    exact .throw (by rwa [Error.deniesChannel_iff, not_not, UInt8.le_iff_toNat_le, ← not_lt])

/-- Of channels that are set one after the other, the first to be refused is out of range. -/
theorem truthful_configureRxChannels (index : Nat) (channels : List RxChannel) :
    Truthful (configureRxChannels index channels) := by
  induction channels generalizing index with
  | nil => exact .pure ()
  | cons channel channels ih =>
    exact (truthful_configureRxChannel _ channel).bind fun _ ↦ ih (index + 1)

theorem truthful_configureTxChannel (channel : TxChannel) :
    Truthful (configureTxChannel channel) := by
  refine truthful_ensureStopped.bind fun _ g g' e h ↦ ?_
  cases h

/-- Settings that list too many channels are refused at the first one of these. -/
theorem truthful_applySettings (settings : Settings) : Truthful (applySettings settings) :=
  (truthful_configureBoard _).bind fun _ ↦ (truthful_configureRxChannels _ _).bind fun _ ↦
    truthful_configureTxChannel _

theorem truthful_replaceBy (settings : Settings) : Truthful (replaceBy settings) := by
  intro g g' e h
  rcases happly : applySettings settings { link := g.link } with ⟨u, new⟩ | ⟨e', new⟩
  · rw [replaceBy, happly] at h
    cases h
  · rw [replaceBy, happly] at h
    cases h
    exact truthful_applySettings settings happly

/-! #### Sessions -/

/-- The radios that are refused are those that the device does not have. -/
theorem truthful_configureRadios (radio1First : Bool) (channels : RxChannels)
    (radios : List (Fin rxChannelCount)) :
    Truthful (DialogueM.configureRadios radio1First channels radios) := by
  have hnote (notice : Notice) : Truthful (DialogueM.note notice) :=
    truthful_of_sound (DialogueM.sound_note notice)
  induction radios with
  | nil => exact .pure ()
  | cons radio radios ih =>
    have hconfig := (hnote (.radioConfigured radio channels[radio])).bind fun _ ↦
      DialogueM.truthful_configRx (UInt8.ofNat radio) channels[radio]
    refine Avoids.bind (.ite (.ite ((hnote _).bind fun _ ↦ ?_) hconfig) (.pure ())) fun _ ↦ ih
    exact .bind (.throw Bool.false_ne_true) fun _ ↦ hconfig

/-- A start denies no radio that the device has. -/
theorem truthful_startAttached : Truthful startAttached := by
  refine truthful_ensureStopped.bind fun _ ↦ Avoids.get.bind fun g ↦ ?_
  intro g₁ g' e h
  rcases hrun : DialogueM.bringUp g.board.radio1First g.rxChannels ⟨g.newController, g.link⟩ with
    ⟨u, d⟩ | ⟨e', d⟩
  · rw [hrun] at h
    cases h
  · rw [hrun] at h
    cases h
    exact ((truthful_of_sound DialogueM.sound_meet).bind fun _ ↦
      truthful_configureRadios _ _ _) hrun

theorem truthful_openLink : Truthful openLink := by
  refine Avoids.get.bind fun g ↦ .ite (.throw Bool.false_ne_true) (truthful_of_sound ?_)
  intro g g' e h
  obtain ⟨link, hpath, -⟩ := onLink_eq_error_iff.1 h
  exact avoids_openPath _ _ hpath

theorem truthful_start : Truthful start :=
  truthful_ensureStopped.bind fun _ ↦ truthful_openLink.bind fun _ ↦ truthful_startAttached

theorem truthful_eui : Truthful eui := by
  refine Avoids.get.bind fun g ↦ .ite ?_ ?_
  · exact (truthful_soundInSession DialogueM.sound_ping).bind fun _ ↦ .pure _
  · refine truthful_openLink.bind fun _ ↦ Avoids.get.bind fun g g₁ g₂ e h ↦ ?_
    rcases hping : DialogueM.ping ⟨g.newController, g.link⟩ with ⟨identity, d⟩ | ⟨e', d⟩
    · rw [hping] at h
      cases h
    · rw [hping] at h
      cases h
      exact truthful_of_sound DialogueM.sound_ping hping

theorem truthful_enterBootloader : Truthful enterBootloader := by
  intro g g' e h
  rcases hrun : inSession DialogueM.enterBootloader g with ⟨u, g₁⟩ | ⟨e', g₁⟩
  · rw [enterBootloader, hrun] at h
    cases h
  · rw [enterBootloader, hrun] at h
    cases h
    exact truthful_soundInSession DialogueM.sound_enterBootloader hrun

/-! #### Packets -/

theorem truthful_receive (limit : Nat) : Truthful (receive limit) :=
  (truthful_soundInSession (DialogueM.sound_receive limit)).bind fun _ ↦
    (truthful_soundInSession DialogueM.sound_status).bind fun _ ↦
      ((onlyNotes_noteCounters _ _).avoids _).bind fun _ ↦ Avoids.get.bind fun _ ↦
        (onlyNotes_completePackets _ _).avoids _

/-- Sending a packet denies no radio that is there. -/
theorem truthful_send (packet : TxPacket) : Truthful (send packet) :=
  truthful_inSession ((truthful_of_sound (DialogueM.sound_note _)).bind fun _ ↦
    DialogueM.truthful_prepareTx packet)

theorem truthful_sendAndWait (packet : TxPacket) (limit : Duration) :
    Truthful (sendAndWait packet limit) :=
  Avoids.get.bind fun _ ↦ (truthful_send packet).bind fun _ ↦
    truthful_soundInSession (DialogueM.sound_awaitTx _ _)

theorem truthful_txActivity : Truthful txActivity := by
  refine Avoids.get.bind fun _ ↦ .ite ?_ (.pure _)
  refine (truthful_soundInSession DialogueM.sound_txStatus).bind fun status ↦ ?_
  split
  · exact ((onlyNotes_note _).avoids _).bind fun _ ↦ .pure _
  · exact .pure _

end GatewayM

namespace Gateway

open GatewayM

/-- Every operation of a gateway is truthful. -/
theorem truthful_run (operation : Operation) : Truthful operation.run := by
  have truthful_completing {program : GatewayM Unit} (h : Truthful program) :
      Truthful (Operation.completing program) := h.bind fun _ ↦ .pure _
  have truthful_session {program : DialogueM Unit} (h : DialogueM.Sound program) :
      Truthful (Operation.completing (inSession program)) :=
    truthful_completing (truthful_soundInSession h)
  have truthful_status {α : Type} (f : DeviceStatus → α) :
      Truthful (do return f (← inSession DialogueM.status) : GatewayM α) :=
    (truthful_soundInSession DialogueM.sound_status).bind fun _ ↦ .pure _
  cases operation with
  | configureBoard board => exact truthful_completing (truthful_configureBoard board)
  | configureRxChannel index channel =>
    exact truthful_completing (truthful_configureRxChannel index channel)
  | configureTxChannel channel => exact truthful_completing (truthful_configureTxChannel channel)
  | applySettings settings => exact truthful_completing (truthful_applySettings settings)
  | replaceBy settings => exact truthful_completing (truthful_replaceBy settings)
  | rxChannel index => exact Avoids.get.bind fun _ ↦ .pure _
  | txChannel => exact Avoids.get.bind fun _ ↦ .pure _
  | start => exact truthful_completing truthful_start
  | startAttached => exact truthful_completing truthful_startAttached
  | stop =>
    refine truthful_completing fun g g' e h ↦ ?_
    obtain ⟨g₁, hok, -⟩ := stop_ok g
    cases hok.symm.trans h
  | receive limit => exact (truthful_receive limit).map _
  | send packet => exact truthful_completing (truthful_send packet)
  | sendAndWait packet limit => exact (truthful_sendAndWait packet limit).map _
  | txActivity => exact truthful_txActivity.map _
  | rxActivity => exact Avoids.map _ (Avoids.get.bind fun _ ↦ .ite (.pure _) (.pure _))
  | abortTx => exact truthful_session (DialogueM.sound_reset (by simp))
  | reset withMcu => exact truthful_session (DialogueM.sound_resetAll withMcu)
  | pulseCounter => exact (truthful_status _).map _
  | instantCounter => exact (truthful_status _).map _
  | temperature => exact (truthful_status _).map _
  | eui => exact truthful_eui.map _
  | readRegister radio address =>
    exact (truthful_soundInSession (DialogueM.sound_readRegister radio address)).map _
  | writeRegister radio address value =>
    exact truthful_session (DialogueM.sound_writeRegister radio address value)
  | setRssiCoefficient radio coefficient =>
    exact truthful_session (DialogueM.sound_setRssiCoefficient radio coefficient)
  | enterBootloader => exact truthful_completing truthful_enterBootloader

end Gateway

/-! ### Settings that list too many channels -/

namespace Settings

/-- A text is refused for a channel exactly when it lists more channels than a board has; the
channel named is the last one, by its index in one byte. -/
theorem ofText_eq_invalidChannel_iff {text : String} {index available : UInt8} :
    ofText text = .error (.invalidChannel index available) ↔
      ∃ settings, record.read.ofText text = .ok settings ∧ 3 < settings.rxChannels.length ∧
        index = UInt8.ofNat (settings.rxChannels.length - 1) ∧ available = 3 := by
  constructor
  · intro h
    unfold ofText at h
    split at h
    · cases h
    · rename_i settings hread
      split at h
      · cases h
        exact ⟨settings, hread, ‹_›, rfl, rfl⟩
      · cases h
  · rintro ⟨settings, hread, hlong, rfl, rfl⟩
    rw [ofText, hread]
    exact if_pos hlong

end Settings

/-! ### Everything that can be refused for a channel -/

/-- What can be asked of the library: an operation of a controller or a gateway, a request to be
written into a buffer or to a link, and settings to be read from a text or from a file. -/
inductive Call
  | controller (operation : Controller.Operation) (d : Dialogue)
  | gateway (operation : Gateway.Operation) (g : Gateway)
  | fill (request : Request) (held : Bytes)
  | frame (request : Request) (id : UInt8)
  | settings (text : String)
  | settingsFile (content : Except IoFailure Bytes)

namespace Call

/-- The call ends with an error. -/
def Fails (e : Error) : Call → Prop
  | controller operation d => (Controller.step operation d).1 = .error e
  | gateway operation g => (Gateway.step operation g).1 = .error e
  | fill request held => (request.fill held).1 = .error e
  | frame request id => request.frame id = .error e
  | settings text => Settings.ofText text = .error e
  | settingsFile content => Settings.ofFile content = .error e

/-- The text that settings are read from, where a call reads some. -/
def text? : Call → Option String
  | settings text => some text
  | settingsFile (.ok bs) => (Utf8.decode? bs).map String.ofList
  | _ => none

/-- The settings that a call reads, whose channels it counts then. -/
def Lists (listed : Settings) (call : Call) : Prop :=
  ∃ text, call.text? = some text ∧ Settings.record.read.ofText text = .ok listed

/-- The call reads settings with so many channels that the index of the last one, counted round 256,
is that of a channel which exists. -/
def Wraps (call : Call) : Prop :=
  ∃ listed, call.Lists listed ∧ (listed.rxChannels.length - 1) % 256 < 3

variable {call : Call} {listed : Settings} {index available : UInt8}

/-- The index of the last channel listed is cut to a byte. -/
theorem wraps_iff (h : call.Lists listed) :
    call.Wraps ↔ (listed.rxChannels.length - 1) % 256 < 3 := by
  refine ⟨?_, fun hlast ↦ ⟨listed, h, hlast⟩⟩
  rintro ⟨listed', ⟨text', htext', hread'⟩, hlast⟩
  obtain ⟨text, htext, hread⟩ := h
  cases htext.symm.trans htext'
  cases hread.symm.trans hread'
  exact hlast

/-- What reads no text wraps no index. -/
theorem not_wraps_of_text (h : call.text? = none) : ¬ call.Wraps := by
  rintro ⟨listed, ⟨text, htext, -⟩, -⟩
  cases h.symm.trans htext

/-- A call that reads settings from a text fails as the text is refused. -/
theorem fails_iff_of_text {text : String} {e : Error} (h : call.text? = some text) :
    call.Fails e ↔ Settings.ofText text = .error e := by
  cases call with
  | settings text' =>
    cases h
    exact Iff.rfl
  | settingsFile content =>
    rcases content with failure | bs
    · cases h
    · obtain ⟨cs, hdecode, rfl⟩ := Option.map_eq_some_iff.1 h
      rw [Fails, Settings.ofFile, hdecode]
  | _ => cases h

/-- What is refused for a channel without a text having been read is refused for one that is out of
range. -/
theorem le_of_fails (htext : call.text? = none)
    (h : call.Fails (.invalidChannel index available)) : available ≤ index := by
  suffices hdenies : ¬ (Error.invalidChannel index available).deniesChannel from
    not_not.1 (Error.deniesChannel_iff.not.1 hdenies)
  cases call with
  | controller operation d =>
    exact Controller.truthful_run operation (Controller.step_eq_error_iff.1 (Prod.ext h rfl))
  | gateway operation g =>
    exact Gateway.truthful_run operation (Gateway.step_eq_error_iff.1 (Prod.ext h rfl))
  | fill request held => exact Request.not_deniesChannel_of_fill h
  | frame request id => exact Request.not_deniesChannel_of_frame h
  | settings text => cases htext
  | settingsFile content =>
    -- a file without a text is refused for that
    rcases content with failure | bs
    · cases h
    · rw [text?, Option.map_eq_none_iff] at htext
      rw [Fails, Settings.ofFile, htext] at h
      cases h

/-- **A channel that is reported as invalid is out of range**, whatever is asked, but where settings
are refused for so many channels that their count wraps round. Settings with more channels than a
board has are always refused, for the index of the last one, counted round 256. -/
theorem invalidChannel_outOfRange (call : Call) :
    (∀ index available, call.Fails (.invalidChannel index available) →
      (available ≤ index ↔ ¬ call.Wraps)) ∧
    ∀ listed, call.Lists listed → 3 < listed.rxChannels.length →
      ∃ index, call.Fails (.invalidChannel index 3) ∧
        index.toNat = (listed.rxChannels.length - 1) % 256 := by
  constructor
  · intro index available h
    rcases htext : call.text? with - | text
    · exact iff_of_true (le_of_fails htext h) (not_wraps_of_text htext)
    · obtain ⟨listed, hread, -, rfl, rfl⟩ :=
        Settings.ofText_eq_invalidChannel_iff.1 ((fails_iff_of_text htext).1 h)
      rw [wraps_iff ⟨text, htext, hread⟩, not_lt, UInt8.le_iff_toNat_le, UInt8.toNat_ofNat']
      rfl
  · rintro listed ⟨text, htext, hread⟩ hlong
    exact ⟨_, (fails_iff_of_text htext).2 (Settings.ofText_eq_invalidChannel_iff.2
      ⟨listed, hread, hlong, rfl, rfl⟩), UInt8.toNat_ofNat'⟩

end Call

namespace Settings

/-- Settings that list that many channels. -/
def crowded (count : Nat) : Settings where
  board := { path := "/dev/ttyACM0" }
  rxChannels := List.replicate count { freqHz := 2403000000 }

/-- Their text lists them all. -/
theorem reads_crowded (count : Nat) :
    record.read.ofText (crowded count).written = .ok (crowded count) := by
  have hfinite : (crowded count).isFinite := by
    rw [isFinite, crowded, List.all_replicate]
    split <;> rfl
  have hread := (crowded count).reads_written.ofText
  rwa [if_pos hfinite] at hread

end Settings

namespace Call

open Settings

/-- There is no fourth channel: a controller that knows no radio, a gateway, the reset of a radio
and a text with four channels are all refused for one that is out of range. -/
theorem invalidChannel_outOfRange_fourth :
    ((controller (.configRx 3 {}) {}).Fails (.invalidChannel 3 0) ∧ (0 : UInt8) ≤ 3) ∧
      ((gateway (.configureRxChannel 3 {}) {}).Fails (.invalidChannel 3 3) ∧ (3 : UInt8) ≤ 3) ∧
        ((fill (.reset (.rx 3)) []).Fails (.invalidChannel 3 3) ∧ (3 : UInt8) ≤ 3) ∧
          ∃ index, (settings (crowded 4).written).Fails (.invalidChannel index 3) ∧
            3 ≤ index := by
  have hradio : (controller (.configRx 3 {}) {}).Fails (.invalidChannel 3 0) := rfl
  have hchannel : (gateway (.configureRxChannel 3 {}) {}).Fails (.invalidChannel 3 3) := rfl
  have hreset : (fill (.reset (.rx 3)) []).Fails (.invalidChannel 3 3) := rfl
  have hlists : (settings (crowded 4).written).Lists (crowded 4) := ⟨_, rfl, reads_crowded 4⟩
  obtain ⟨hrange, hrefused⟩ := invalidChannel_outOfRange (settings (crowded 4).written)
  obtain ⟨index, hfails, -⟩ := hrefused _ hlists (by decide)
  refine ⟨⟨hradio, ((invalidChannel_outOfRange _).1 _ _ hradio).2 (not_wraps_of_text rfl)⟩,
    ⟨hchannel, ((invalidChannel_outOfRange _).1 _ _ hchannel).2 (not_wraps_of_text rfl)⟩,
    ⟨hreset, ((invalidChannel_outOfRange _).1 _ _ hreset).2 (not_wraps_of_text rfl)⟩,
    index, hfails, (hrange _ _ hfails).2 ?_⟩
  rw [wraps_iff hlists]
  decide

end Call

namespace Settings

/-- A text with 257 channels is refused for the first one, which every board has. -/
theorem ofText_crowded_denies :
    ofText (crowded 257).written = .error (.invalidChannel 0 3) ∧ ¬ (3 : UInt8) ≤ 0 := by
  refine ⟨ofText_eq_invalidChannel_iff.2 ⟨crowded 257, reads_crowded 257, ?_, ?_, rfl⟩, by decide⟩
  all_goals
    rw [crowded, List.length_replicate]
    decide

end Settings

end LoraConcentrator
