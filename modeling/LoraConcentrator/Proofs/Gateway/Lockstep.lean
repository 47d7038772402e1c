import LoraConcentrator.Gateway.Run
import LoraConcentrator.Proofs.Controller.Lockstep
import LoraConcentrator.Proofs.Gateway.BringUp

/-!
# Gateways over links that cannot be told apart

A relation between links that no program of a link can observe is not observed by a gateway: its
settings and its session stay the same on both sides, every operation ends in agreement
(`Gateway.lockstep_operation`), and so does every run (`Gateway.run_over`).

Two programs take the link out of the gateway and speak over it before there is a session: the one
that opens a session and the one that reads the identifier of a stopped board. For these the
dialogue is compared first, and then what the gateway makes of its end.
-/

namespace LoraConcentrator

open Program
open Link (Hidden)

variable {L : Link → Link → Prop}

/-! ### Bringing a board up -/

namespace DialogueM

variable (h : Hidden L)

include h

/-- Checking the firmware shows nothing of the link. -/
theorem lockstep_checkFirmware (identity : Identity) :
    Lockstep (Dialogue.Over L) (checkFirmware identity) (checkFirmware identity) := by
  have hnote := lockstep_note h.toHiddenFromReading.over
  have haccept := (hnote (.firmwareAccepted identity.version)).bind fun _ ↦
    hnote (.euiRead identity.eui)
  refine .ite ?_ haccept
  exact (hnote _).bind fun _ ↦ .throw_bind _ _ _

/-- Configuring a radio shows nothing that its exchange hides. -/
theorem lockstep_configureRadio (radio1First : Bool) (channels : RxChannels)
    (radio : Fin rxChannelCount) :
    Lockstep (Dialogue.Over L) (configureRadio radio1First channels radio)
      (configureRadio radio1First channels radio) := by
  have hconfigure := (lockstep_note h.toHiddenFromReading.over
    (.radioConfigured radio channels[radio])).bind fun _ ↦
      lockstep_configRx h.over (UInt8.ofNat radio) channels[radio]
  refine .ite (.ite ?_ hconfigure) (.pure ())
  exact (lockstep_note h.toHiddenFromReading.over _).bind fun _ ↦ .throw_bind _ _ _

theorem lockstep_configureRadios (radio1First : Bool) (channels : RxChannels)
    (radios : List (Fin rxChannelCount)) :
    Lockstep (Dialogue.Over L) (configureRadios radio1First channels radios)
      (configureRadios radio1First channels radios) := by
  induction radios with
  | nil => exact .pure ()
  | cons radio radios ih => exact (lockstep_configureRadio h _ _ radio).bind fun _ ↦ ih

/-- Meeting the device shows nothing that its exchanges hide. -/
theorem lockstep_meet : Lockstep (Dialogue.Over L) meet meet := by
  refine (lockstep_ping h.over).bind fun identity ↦ ?_
  refine (lockstep_checkFirmware h identity).bind fun _ ↦ ?_
  refine (lockstep_resetAll h.over false).bind fun _ ↦ ?_
  exact (lockstep_status h.over).bind fun _ ↦ .pure identity

/-- Bringing a board up shows nothing that its exchanges hide. -/
theorem lockstep_bringUp (radio1First : Bool) (channels : RxChannels) :
    Lockstep (Dialogue.Over L) (bringUp radio1First channels) (bringUp radio1First channels) :=
  (lockstep_meet h).bind fun _ ↦ lockstep_configureRadios h _ _ _

end DialogueM

/-- The same gateway with related links. -/
def Gateway.Over (L : Link → Link → Prop) (g g' : Gateway) : Prop :=
  ∃ link, L g.link link ∧ g' = { g with link := link }

instance [IsEquiv Link L] : IsEquiv Gateway (Gateway.Over L) where
  refl g := ⟨g.link, Std.Refl.refl _, rfl⟩
  symm g _ := by
    rintro ⟨link, hl, rfl⟩
    exact ⟨g.link, Std.Symm.symm _ _ hl, rfl⟩
  trans _ _ _ := by
    rintro ⟨link, hl, rfl⟩ ⟨link', hl', rfl⟩
    exact ⟨link', IsTrans.trans _ _ _ hl hl', rfl⟩

namespace Gateway.Over

variable {g g' : Gateway}

/-- What the link hides is not whether there is a session. -/
theorem isStarted_eq : Over L g g' → g'.isStarted = g.isStarted := by
  rintro ⟨link, -, rfl⟩
  rfl

theorem board_eq : Over L g g' → g'.board = g.board := by
  rintro ⟨link, -, rfl⟩
  rfl

theorem rxChannels_eq : Over L g g' → g'.rxChannels = g.rxChannels := by
  rintro ⟨link, -, rfl⟩
  rfl

/-- What a new controller would speak over on both sides. -/
theorem newDialogue :
    Over L g g' → Dialogue.Over L ⟨g.newController, g.link⟩ ⟨g'.newController, g'.link⟩ := by
  rintro ⟨link, hl, rfl⟩
  exact ⟨link, hl, rfl⟩

end Gateway.Over

namespace GatewayM

/-! ### Steps of a gateway -/

/-- What programs on a link cannot tell, a gateway over it cannot. -/
theorem lockstep_onLink {α : Type} {x y : LinkM α} (hxy : Lockstep L x y) :
    Lockstep (Gateway.Over L) (onLink x) (onLink y) := by
  rintro g _ ⟨link, hl, rfl⟩
  unfold onLink
  rcases (hxy hl).ok_or_error with ⟨a, s, t, hx, hy, hst⟩ | ⟨e, s, t, hx, hy, hst⟩
  · rw [hx, hy]
    exact .ok ⟨t, hst, rfl⟩
  · rw [hx, hy]
    exact .error ⟨t, hst, rfl⟩

/-- A session finds the same on both sides, and so does its absence. -/
theorem lockstep_inSession {α : Type} {x y : DialogueM α} (hxy : Lockstep (Dialogue.Over L) x y) :
    Lockstep (Gateway.Over L) (inSession x) (inSession y) := by
  rintro ⟨board, rx, tx, - | controller, link⟩ _ ⟨link', hl, rfl⟩
  · exact .error ⟨link', hl, rfl⟩
  have hagree := hxy (s := ⟨controller, link⟩) ⟨link', hl, rfl⟩
  unfold inSession
  dsimp only at hagree ⊢
  rcases hagree.ok_or_error with
    ⟨a, d, _, hx, hy, next, hnext, rfl⟩ | ⟨e, d, _, hx, hy, next, hnext, rfl⟩
  · rw [hx, hy]
    exact .ok ⟨next, hnext, rfl⟩
  · rw [hx, hy]
    exact .error ⟨next, hnext, rfl⟩

/-- A change of the gateway that does not touch its link. -/
theorem lockstep_modify (f : Gateway → Gateway)
    (hf : ∀ g link, f { g with link := link } = { f g with link := link })
    (hlink : ∀ g, (f g).link = g.link) :
    Lockstep (Gateway.Over L) (modify f : GatewayM Unit) (modify f) := by
  refine .modify ?_
  rintro g _ ⟨link, hl, rfl⟩
  refine ⟨link, ?_, hf g link⟩
  rw [hlink]
  exact hl

/-- What follows a look at the gateway and does not depend on its link. -/
theorem lockstep_get {α : Type} {f : Gateway → GatewayM α}
    (hf : ∀ g, Lockstep (Gateway.Over L) (f g) (f g))
    (hlink : ∀ g link, f { g with link := link } = f g) :
    Lockstep (Gateway.Over L) (get >>= f) (get >>= f) := by
  refine .get_bind ?_
  rintro g _ ⟨link, hl, rfl⟩
  have hsame := hlink g link
  rw [hsame]
  exact hf g ⟨link, hl, rfl⟩

/-! ### Operations -/

section Operations

variable (h : Hidden L)

include h

theorem lockstep_note (notice : Notice) :
    Lockstep (Gateway.Over L) (note notice) (note notice) :=
  lockstep_onLink (h.lockstep_note notice)

theorem lockstep_closeLink : Lockstep (Gateway.Over L) closeLink closeLink := by
  refine .modify ?_
  rintro g _ ⟨link, hl, rfl⟩
  exact ⟨_, h.close hl, rfl⟩

theorem lockstep_ensureStopped : Lockstep (Gateway.Over L) ensureStopped ensureStopped :=
  lockstep_get (fun _ ↦ .ite ((lockstep_note h _).bind fun _ ↦ .throw _) (.pure ()))
    fun _ _ ↦ rfl

theorem lockstep_openLink : Lockstep (Gateway.Over L) openLink openLink :=
  lockstep_get (fun _ ↦ .ite (.throw_bind _ _ _) (lockstep_onLink (h.openPath _ _))) fun _ _ ↦ rfl

theorem lockstep_configureBoard (board : BoardSettings) :
    Lockstep (Gateway.Over L) (configureBoard board) (configureBoard board) := by
  refine (lockstep_ensureStopped h).bind fun _ ↦ (lockstep_note h _).bind fun _ ↦ ?_
  exact lockstep_modify _ (fun _ _ ↦ rfl) fun _ ↦ rfl

theorem lockstep_configureRxChannel (index : UInt8) (channel : RxChannel) :
    Lockstep (Gateway.Over L) (configureRxChannel index channel)
      (configureRxChannel index channel) := by
  refine (lockstep_ensureStopped h).bind fun _ ↦ ?_
  split
  · refine Lockstep.bind ?_ fun _ ↦ lockstep_note h _
    exact lockstep_modify _ (fun _ _ ↦ rfl) fun _ ↦ rfl
  · exact .throw _

theorem lockstep_configureRxChannels (index : Nat) (channels : List RxChannel) :
    Lockstep (Gateway.Over L) (configureRxChannels index channels)
      (configureRxChannels index channels) := by
  induction channels generalizing index with
  | nil => exact .pure ()
  | cons channel channels ih =>
    exact (lockstep_configureRxChannel h _ channel).bind fun _ ↦ ih (index + 1)

theorem lockstep_configureTxChannel (channel : TxChannel) :
    Lockstep (Gateway.Over L) (configureTxChannel channel) (configureTxChannel channel) :=
  (lockstep_ensureStopped h).bind fun _ ↦
    lockstep_modify _ (fun _ _ ↦ rfl) fun _ ↦ rfl

theorem lockstep_applySettings (settings : Settings) :
    Lockstep (Gateway.Over L) (applySettings settings) (applySettings settings) :=
  (lockstep_configureBoard h _).bind fun _ ↦ (lockstep_configureRxChannels h _ _).bind fun _ ↦
    lockstep_configureTxChannel h _

theorem lockstep_replaceBy (settings : Settings) :
    Lockstep (Gateway.Over L) (replaceBy settings) (replaceBy settings) := by
  intro g g' hg
  have hagree := lockstep_applySettings h settings (s := { link := g.link })
    (t := { link := g'.link }) (by obtain ⟨link, hl, rfl⟩ := hg; exact ⟨link, hl, rfl⟩)
  unfold replaceBy
  rw [hg.isStarted_eq]
  obtain ⟨link, hl, rfl⟩ := hg
  rcases hagree.ok_or_error with
    ⟨_, new, _, hx, hy, next, hnext, rfl⟩ | ⟨e, new, _, hx, hy, next, hnext, rfl⟩
  · rw [hx, hy]
    dsimp only
    split
    · exact .ok ⟨next.close, h.close hnext, rfl⟩
    · exact .ok ⟨next, hnext, rfl⟩
  · rw [hx, hy]
    exact .error ⟨next, hnext, rfl⟩

/-- A start shows nothing that its exchanges hide. -/
theorem lockstep_startAttached : Lockstep (Gateway.Over L) startAttached startAttached := by
  intro g g' hg
  have hbringUp := DialogueM.lockstep_bringUp h g.board.radio1First g.rxChannels hg.newDialogue
  by_cases hstarted : g.isStarted
  · have hstarted' : g'.isStarted := hg.isStarted_eq ▸ hstarted
    rw [startAttached_of_isStarted hstarted, startAttached_of_isStarted hstarted']
    obtain ⟨link, hl, rfl⟩ := hg
    exact .error ⟨_, h.note _ hl, rfl⟩
  · have hstopped' : ¬ g'.isStarted := hg.isStarted_eq ▸ hstarted
    rw [startAttached_of_stopped hstarted, startAttached_of_stopped hstopped', hg.board_eq,
      hg.rxChannels_eq]
    rcases hbringUp.ok_or_error with
      ⟨_, d, _, hx, hy, next, hnext, rfl⟩ | ⟨e, d, _, hx, hy, next, hnext, rfl⟩
    · rw [hx, hy]
      obtain ⟨link, hl, rfl⟩ := hg
      exact .ok ⟨_, h.note _ hnext, rfl⟩
    · rw [hx, hy]
      obtain ⟨link, hl, rfl⟩ := hg
      exact .error ⟨_, h.close hnext, rfl⟩

theorem lockstep_start : Lockstep (Gateway.Over L) start start :=
  (lockstep_ensureStopped h).bind fun _ ↦ (lockstep_openLink h).bind fun _ ↦
    lockstep_startAttached h

omit h in
/-- A reset whose failure is noted shows nothing that its exchange hides. -/
theorem lockstep_resetQuietly (h : Hidden L) (target : ResetTarget) (report : Error → Notice) :
    Lockstep (Dialogue.Over L) (resetQuietly target report) (resetQuietly target report) := by
  intro d d' hd
  unfold resetQuietly
  rcases (DialogueM.lockstep_reset h.over target hd).ok_or_error with
    ⟨_, d, d', hx, hy, hd⟩ | ⟨e, d, d', hx, hy, hd⟩
  · rw [hx, hy]
    exact .ok hd
  · rw [hx, hy]
    exact DialogueM.lockstep_note h.toHiddenFromReading.over _ hd

/-- A stop shows nothing that its two exchanges hide. -/
theorem lockstep_stop : Lockstep (Gateway.Over L) stop stop := by
  refine lockstep_get (fun _ ↦ .ite ?_ (lockstep_note h _)) fun _ _ ↦ rfl
  refine (lockstep_inSession (lockstep_resetQuietly h _ _)).bind fun _ ↦ ?_
  refine (lockstep_inSession (lockstep_resetQuietly h _ _)).bind fun _ ↦ ?_
  refine Lockstep.bind ?_ fun _ ↦ (lockstep_closeLink h).bind fun _ ↦ lockstep_note h _
  exact lockstep_modify _ (fun _ _ ↦ rfl) fun _ ↦ rfl

theorem lockstep_enterBootloader :
    Lockstep (Gateway.Over L) enterBootloader enterBootloader := by
  intro g g' hg
  have hsession := lockstep_inSession (DialogueM.lockstep_enterBootloader h.over) hg
  unfold enterBootloader
  rcases hsession.ok_or_error with
    ⟨_, g, _, hx, hy, next, hnext, rfl⟩ | ⟨e, g, g', hx, hy, hnext⟩
  · rw [hx, hy]
    exact .ok ⟨_, h.close hnext, rfl⟩
  · rw [hx, hy]
    dsimp only
    rw [hnext.isStarted_eq]
    obtain ⟨next, hl, rfl⟩ := hnext
    split
    · exact .error ⟨_, h.close hl, rfl⟩
    · exact .error ⟨next, hl, rfl⟩

theorem lockstep_noteCounters (radio : Nat) (counters : List CrcCounters) :
    Lockstep (Gateway.Over L) (noteCounters radio counters) (noteCounters radio counters) := by
  induction counters generalizing radio with
  | nil => exact .pure ()
  | cons first counters ih => exact (lockstep_note h _).bind fun _ ↦ ih (radio + 1)

theorem lockstep_completePackets (channels : RxChannels) (packets : List RxPacket) :
    Lockstep (Gateway.Over L) (completePackets channels packets)
      (completePackets channels packets) := by
  induction packets with
  | nil => exact .pure []
  | cons packet packets ih =>
    have hrest : Lockstep (Gateway.Over L)
        (completePackets channels packets >>= fun rest ↦
          pure (packet.completed channels :: rest))
        (completePackets channels packets >>= fun rest ↦
          pure (packet.completed channels :: rest)) :=
      ih.bind fun _ ↦ .pure _
    exact .ite ((lockstep_note h _).bind fun _ ↦ hrest) hrest

/-- Fetching packets shows nothing that its exchanges hide. -/
theorem lockstep_receive (limit : Nat) :
    Lockstep (Gateway.Over L) (receive limit) (receive limit) := by
  refine (lockstep_inSession (DialogueM.lockstep_receive h.over limit)).bind fun packets ↦ ?_
  refine (lockstep_inSession (DialogueM.lockstep_status h.over)).bind fun status ↦ ?_
  refine (lockstep_noteCounters h _ _).bind fun _ ↦ ?_
  exact lockstep_get (fun g ↦ lockstep_completePackets h g.rxChannels packets) fun _ _ ↦ rfl

theorem lockstep_send (packet : TxPacket) :
    Lockstep (Gateway.Over L) (send packet) (send packet) :=
  lockstep_inSession ((DialogueM.lockstep_note h.toHiddenFromReading.over _).bind fun _ ↦
    DialogueM.lockstep_prepareTx h.over packet)

theorem lockstep_sendAndWait (packet : TxPacket) (limit : Duration) :
    Lockstep (Gateway.Over L) (sendAndWait packet limit) (sendAndWait packet limit) :=
  lockstep_get (fun _ ↦ (lockstep_send h packet).bind fun _ ↦
    lockstep_inSession (DialogueM.lockstep_awaitTx h.over _ limit)) fun _ _ ↦ rfl

theorem lockstep_txActivity : Lockstep (Gateway.Over L) txActivity txActivity := by
  refine lockstep_get (fun _ ↦ .ite ?_ (.pure _)) fun _ _ ↦ rfl
  refine (lockstep_inSession (DialogueM.lockstep_txStatus h.over)).bind fun status ↦ ?_
  cases status with
  | unknown code => exact (lockstep_note h _).bind fun _ ↦ .pure _
  | _ => exact .pure _

omit h in
theorem lockstep_rxActivity : Lockstep (Gateway.Over L) rxActivity rxActivity :=
  lockstep_get (fun _ ↦ .ite (.pure _) (.pure _)) fun _ _ ↦ rfl

/-- Asking a closed device for its number shows nothing that opening and exchanges hide. -/
theorem lockstep_euiOfClosed : Lockstep (Gateway.Over L) euiOfClosed euiOfClosed := by
  refine (lockstep_openLink h).bind fun _ ↦ .get_bind fun g g' hg ↦ ?_
  have hping := DialogueM.lockstep_ping h.over hg.newDialogue
  obtain ⟨link, hl, rfl⟩ := hg
  rcases hping.ok_or_error with
    ⟨identity, d, _, hx, hy, next, hnext, rfl⟩ | ⟨e, d, _, hx, hy, next, hnext, rfl⟩
  · rw [hx, hy]
    exact .ok ⟨_, h.close hnext, rfl⟩
  · rw [hx, hy]
    exact .error ⟨_, h.close hnext, rfl⟩

theorem lockstep_eui : Lockstep (Gateway.Over L) eui eui := by
  refine lockstep_get (fun _ ↦ .ite ?_ (lockstep_euiOfClosed h)) fun _ _ ↦ rfl
  exact (lockstep_inSession (DialogueM.lockstep_ping h.over)).bind fun _ ↦ .pure _

/-- What a status says. -/
theorem lockstep_ofStatus {α : Type} (read : DeviceStatus → α) :
    Lockstep (Gateway.Over L) (inSession DialogueM.status >>= fun status ↦ pure (read status))
      (inSession DialogueM.status >>= fun status ↦ pure (read status)) :=
  (lockstep_inSession (DialogueM.lockstep_status h.over)).bind fun _ ↦ .pure _

end Operations

end GatewayM

/-! ### Runs -/

namespace Gateway

/-- A run is its first operation and the run of the others. -/
theorem run_cons (operation : Operation) (operations : List Operation) (g : Gateway) :
    run (operation :: operations) g =
      ((step operation g).1 :: (run operations (step operation g).2).1,
        (run operations (step operation g).2).2) :=
  rfl

/-- A program shows nothing more when it is made an operation. -/
theorem lockstep_completing {program : GatewayM Unit}
    (hprogram : Lockstep (Gateway.Over L) program program) :
    Lockstep (Gateway.Over L) (Operation.completing program) (Operation.completing program) :=
  hprogram.bind fun _ ↦ .pure _

variable (h : Hidden L)

include h

/-- No operation of a gateway shows what exchanges hide. -/
theorem lockstep_operation (operation : Operation) :
    Lockstep (Gateway.Over L) operation.run operation.run := by
  cases operation with
  | configureBoard board => exact lockstep_completing (GatewayM.lockstep_configureBoard h board)
  | configureRxChannel index channel =>
    exact lockstep_completing (GatewayM.lockstep_configureRxChannel h index channel)
  | configureTxChannel channel =>
    exact lockstep_completing (GatewayM.lockstep_configureTxChannel h channel)
  | applySettings settings =>
    exact lockstep_completing (GatewayM.lockstep_applySettings h settings)
  | replaceBy settings => exact lockstep_completing (GatewayM.lockstep_replaceBy h settings)
  | rxChannel index => exact GatewayM.lockstep_get (fun _ ↦ .pure _) fun _ _ ↦ rfl
  | txChannel => exact GatewayM.lockstep_get (fun _ ↦ .pure _) fun _ _ ↦ rfl
  | start => exact lockstep_completing (GatewayM.lockstep_start h)
  | startAttached => exact lockstep_completing (GatewayM.lockstep_startAttached h)
  | stop => exact lockstep_completing (GatewayM.lockstep_stop h)
  | receive limit => exact (GatewayM.lockstep_receive h limit).map _
  | send packet => exact lockstep_completing (GatewayM.lockstep_send h packet)
  | sendAndWait packet limit => exact (GatewayM.lockstep_sendAndWait h packet limit).map _
  | txActivity => exact (GatewayM.lockstep_txActivity h).map _
  | rxActivity => exact GatewayM.lockstep_rxActivity.map _
  | abortTx =>
    exact lockstep_completing (GatewayM.lockstep_inSession (DialogueM.lockstep_reset h.over .tx))
  | reset withMcu =>
    exact lockstep_completing
      (GatewayM.lockstep_inSession (DialogueM.lockstep_resetAll h.over withMcu))
  | pulseCounter => exact (GatewayM.lockstep_ofStatus h (·.ppsTimeUs)).map _
  | instantCounter => exact (GatewayM.lockstep_ofStatus h (·.preciseTimeUs)).map _
  | temperature => exact (GatewayM.lockstep_ofStatus h (·.celsius)).map _
  | eui => exact (GatewayM.lockstep_eui h).map _
  | readRegister radio address =>
    exact (GatewayM.lockstep_inSession (DialogueM.lockstep_readRegister h.over radio address)).map _
  | writeRegister radio address value =>
    exact lockstep_completing
      (GatewayM.lockstep_inSession (DialogueM.lockstep_writeRegister h.over radio address value))
  | setRssiCoefficient radio coefficient =>
    exact lockstep_completing
      (GatewayM.lockstep_inSession (DialogueM.lockstep_setRssiCoefficient h.over radio coefficient))
  | enterBootloader => exact lockstep_completing (GatewayM.lockstep_enterBootloader h)

/-- An operation has the same outcome over related links and leaves them related. -/
theorem step_over (operation : Operation) {g g' : Gateway} (hg : Gateway.Over L g g') :
    (step operation g').1 = (step operation g).1 ∧
      Gateway.Over L (step operation g).2 (step operation g').2 := by
  have hagree := lockstep_operation h operation hg
  unfold step
  rcases hagree.ok_or_error with ⟨a, s, t, hx, hy, hst⟩ | ⟨e, s, t, hx, hy, hst⟩
  · rw [hx, hy]
    exact ⟨rfl, hst⟩
  · rw [hx, hy]
    exact ⟨rfl, hst⟩

/-- The same of a run. -/
theorem run_over (operations : List Operation) {g g' : Gateway} (hg : Gateway.Over L g g') :
    (run operations g').1 = (run operations g).1 ∧
      Gateway.Over L (run operations g).2 (run operations g').2 := by
  induction operations generalizing g g' with
  | nil => exact ⟨rfl, hg⟩
  | cons operation operations ih =>
    obtain ⟨houtcome, hnext⟩ := step_over h operation hg
    obtain ⟨houtcomes, hend⟩ := ih hnext
    rw [run_cons, run_cons]
    exact ⟨List.cons_eq_cons.2 ⟨houtcome, houtcomes⟩, hend⟩

end Gateway

end LoraConcentrator
