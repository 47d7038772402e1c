import LoraConcentrator.Proofs.Gateway.Guards
import LoraConcentrator.Proofs.Link.Notices

/-!
# The life cycle of a session

A session opens by an operation that opens one and succeeds, and closes by one that closes it. In
between the settings of the gateway stay as they are, and without a session nothing is held of the
link. What a step can do is said once for each kind of operation: most are steady
(`Operation.keeps_run`), some only set (`Operation.keeps_run_of_configures`), and those that open
and close sessions have two results each (`GatewayM.Opening`, `Operation.keeps_run_of_closes`). What
happens to a packet or a status after it was fetched only adds notices (`GatewayM.OnlyNotes`). Main
result: `Gateway.run_lifeCycle`.
-/

namespace LoraConcentrator

open Program

variable {α : Type}

namespace Link

/-- Closing a link closes its port. -/
theorem port_close (link : Link) : link.close.port = none := by
  unfold close
  split
  · rfl
  · assumption

end Link

namespace Gateway

/-! ### What steps keep -/

/-- The board and the channels are set as before. -/
structure SameSettings (g g' : Gateway) : Prop where
  board_eq : g'.board = g.board
  rxChannels_eq : g'.rxChannels = g.rxChannels
  txChannel_eq : g'.txChannel = g.txChannel

instance : IsPreorder Gateway SameSettings where
  refl _ := ⟨rfl, rfl, rfl⟩
  trans _ _ _ h h' :=
    ⟨h'.board_eq.trans h.board_eq, h'.rxChannels_eq.trans h.rxChannels_eq,
      h'.txChannel_eq.trans h.txChannel_eq⟩

/-- Without a session no port is open. -/
def Tidy (g : Gateway) : Prop := ¬ g.isStarted → g.link.port = none

/-- The session is as open as before. -/
structure SameState (g g' : Gateway) : Prop where
  isStarted_eq : g'.isStarted = g.isStarted
  tidy : g.Tidy → g'.Tidy

instance : IsPreorder Gateway SameState where
  refl _ := ⟨rfl, id⟩
  trans _ _ _ h h' := ⟨h'.isStarted_eq.trans h.isStarted_eq, h'.tidy ∘ h.tidy⟩

/-- Neither the session nor the settings change. -/
structure Steady (g g' : Gateway) : Prop extends SameState g g', SameSettings g g'

instance : IsPreorder Gateway Steady where
  refl g := ⟨Std.Refl.refl g, Std.Refl.refl g⟩
  trans _ _ _ h h' :=
    ⟨IsTrans.trans _ _ _ h.toSameState h'.toSameState,
      IsTrans.trans _ _ _ h.toSameSettings h'.toSameSettings⟩

/-- The session is closed, and the settings stay. -/
structure Closed (g g' : Gateway) : Prop extends SameSettings g g' where
  stopped : ¬ g'.isStarted
  tidy : g.Tidy → g'.Tidy

variable {g g' : Gateway}

/-- What only touches the link is steady, unless it opens a port. -/
theorem steady_of_link {link : Link} (h : g.link.port = none → link.port = none) :
    Steady g { g with link := link } where
  isStarted_eq := rfl
  tidy htidy hstopped := h (htidy hstopped)
  board_eq := rfl
  rxChannels_eq := rfl
  txChannel_eq := rfl

/-- What a session does to its controller and its link is steady. -/
theorem steady_of_session (h : g.isStarted) (d : Dialogue) :
    Steady g { g with session := some d.controller, link := d.link } where
  isStarted_eq := h.symm
  tidy _ hstopped := absurd rfl hstopped
  board_eq := rfl
  rxChannels_eq := rfl
  txChannel_eq := rfl

end Gateway

namespace GatewayM

open Gateway

/-! ### Programs that only note -/

/-- On any gateway the program gives `a`, and of the gateway only the notices change. -/
def OnlyNotes (program : GatewayM α) (a : α) : Prop :=
  ∀ g : Gateway, ∃ link, Link.SameButNotices g.link link ∧
    program g = .ok a { g with link := link }

theorem onlyNotes_note (notice : Notice) : OnlyNotes (note notice) () :=
  fun g ↦ ⟨_, ⟨notice :: g.link.noticed, rfl⟩, rfl⟩

namespace OnlyNotes

variable {β : Type} {x : GatewayM α} {a : α}

theorem pure (a : α) : OnlyNotes (pure a) a :=
  fun g ↦ ⟨g.link, Std.Refl.refl _, rfl⟩

/-- Notes follow notes. -/
theorem bind {f : α → GatewayM β} {b : β} (hx : OnlyNotes x a) (hf : OnlyNotes (f a) b) :
    OnlyNotes (x >>= f) b := by
  intro g
  obtain ⟨link, hlink, hrun⟩ := hx g
  obtain ⟨link', hlink', hrun'⟩ := hf { g with link := link }
  exact ⟨link', IsTrans.trans _ _ _ hlink hlink', (bind_of_ok hrun).trans hrun'⟩

theorem ite {c : Prop} [Decidable c] {y : GatewayM α} (hx : OnlyNotes x a) (hy : OnlyNotes y a) :
    OnlyNotes (if c then x else y) a := by
  split
  · exact hx
  · exact hy

/-- What only notes does not fail. -/
theorem avoids (hx : OnlyNotes x a) (kind : Error → Prop) : Avoids kind x := by
  intro g g' e h
  obtain ⟨link, -, hrun⟩ := hx g
  cases hrun.symm.trans h

end OnlyNotes

theorem onlyNotes_noteCounters (radio : Nat) (counters : List CrcCounters) :
    OnlyNotes (noteCounters radio counters) () := by
  induction counters generalizing radio with
  | nil => exact .pure ()
  | cons first counters ih => exact (onlyNotes_note _).bind (ih (radio + 1))

/-- Every packet is completed, in order. -/
theorem onlyNotes_completePackets (channels : RxChannels) (packets : List RxPacket) :
    OnlyNotes (completePackets channels packets) (packets.map (·.completed channels)) := by
  induction packets with
  | nil => exact .pure []
  | cons packet packets ih =>
    have hrest : OnlyNotes (completePackets channels packets >>= fun rest ↦
        pure (packet.completed channels :: rest))
        ((packet :: packets).map (·.completed channels)) :=
      ih.bind (.pure _)
    exact .ite ((onlyNotes_note _).bind hrest) hrest

/-! ### Steady programs -/

/-- A program that only notes is steady. -/
theorem OnlyNotes.keeps {program : GatewayM α} {a : α} (h : OnlyNotes program a) :
    Keeps Steady (fun _ ↦ False) program := by
  refine .of_outcome fun g ↦ ?_
  obtain ⟨_, ⟨noticed, rfl⟩, hrun⟩ := h g
  exact .inl ⟨a, _, hrun, steady_of_link id⟩

theorem keeps_note (notice : Notice) : Keeps Steady (fun _ ↦ False) (note notice) :=
  (onlyNotes_note notice).keeps

/-- A session goes on whatever it does, and without one nothing happens. -/
theorem keeps_inSession (program : DialogueM α) :
    Keeps Steady (fun _ ↦ False) (inSession program) := by
  refine .of_outcome fun g ↦ ?_
  rcases hsession : g.session with - | controller
  · have hstopped : ¬ g.isStarted := Option.not_isSome_iff_eq_none.2 hsession
    exact .inr ⟨_, g, inSession_of_stopped program hstopped, Std.Refl.refl g⟩
  · have hstarted : g.isStarted := Option.isSome_iff_exists.2 ⟨controller, hsession⟩
    rw [inSession, hsession]
    dsimp only
    rcases program ⟨controller, g.link⟩ with ⟨a, d⟩ | ⟨e, d⟩
    · exact .inl ⟨a, _, rfl, steady_of_session hstarted d⟩
    · exact .inr ⟨e, _, rfl, steady_of_session hstarted d⟩

/-- Fetching packets is steady, whatever comes of it. -/
theorem keeps_receive (limit : Nat) : Keeps Steady (fun _ ↦ False) (receive limit) := by
  refine (keeps_inSession _).bind fun packets ↦ (keeps_inSession _).bind fun status ↦ ?_
  exact (onlyNotes_noteCounters _ _).keeps.bind fun _ ↦ Keeps.get.bind fun _ ↦
    (onlyNotes_completePackets _ _).keeps

theorem keeps_sendAndWait (packet : TxPacket) (limit : Duration) :
    Keeps Steady (fun _ ↦ False) (sendAndWait packet limit) :=
  Keeps.get.bind fun _ ↦ (keeps_inSession _).bind fun _ ↦ keeps_inSession _

theorem keeps_txActivity : Keeps Steady (fun _ ↦ False) txActivity := by
  refine Keeps.get.bind fun g ↦ .ite ?_ (.pure _)
  refine (keeps_inSession _).bind fun status ↦ ?_
  cases status with
  | unknown code => exact (keeps_note _).bind fun _ ↦ .pure _
  | _ => exact .pure _

theorem keeps_rxActivity : Keeps Steady (fun _ ↦ False) rxActivity :=
  Keeps.get.bind fun _ ↦ .ite (.pure _) (.pure _)

/-! ### Opening the link -/

/-- A path that is not opened leaves the port as it was. -/
theorem port_of_openPath_error {path : String} {settings : LinkSettings} {link link' : Link}
    {e : Error} (h : LinkM.openPath path settings link = .error e link') :
    link'.port = link.port := by
  rcases bind_eq_error_iff.1 h with h | ⟨_, recorded, hrecorded, h⟩
  · cases h
  have hport : recorded.port = link.port := by
    cases hrecorded
    rfl
  rw [← hport]
  rw [get_bind] at h
  rcases hopening : recorded.opening with - | files | failure
  all_goals rw [hopening] at h; dsimp only at h
  · split at h
    all_goals cases h
    rfl
  · rcases hfile : files.openPort path with fault | ⟨⟩
    all_goals rw [hfile] at h; dsimp only at h
    all_goals cases h
    rfl
  · cases h
    rfl

/-- Opening the link touches nothing else. -/
theorem openLink_ok {g g' : Gateway} (h : openLink g = .ok () g') :
    ∃ link, g' = { g with link := link } := by
  rw [openLink, get_bind] at h
  split at h
  · cases h
  · obtain ⟨link, -, rfl⟩ := onLink_eq_ok_iff.1 h
    exact ⟨link, rfl⟩

/-- Where opening the link fails no port is opened. -/
theorem openLink_error {g g' : Gateway} {e : Error} (h : openLink g = .error e g') :
    Steady g g' := by
  rw [openLink, get_bind] at h
  split at h
  · cases h
    exact Std.Refl.refl g
  · obtain ⟨link, hpath, rfl⟩ := onLink_eq_error_iff.1 h
    exact steady_of_link fun hport ↦ (port_of_openPath_error hpath).trans hport

/-- Asking a closed device for its number opens and closes the link, and is steady. -/
theorem keeps_euiOfClosed : Keeps Steady (fun _ ↦ False) euiOfClosed := by
  refine .of_outcome fun g ↦ ?_
  rw [euiOfClosed]
  rcases hopen : openLink g with ⟨⟨⟩, g'⟩ | ⟨e, g'⟩
  · rw [bind_of_ok hopen, get_bind]
    obtain ⟨link, rfl⟩ := openLink_ok hopen
    have hclosed (d : Dialogue) : Steady g { g with link := d.link.close } :=
      steady_of_link fun _ ↦ Link.port_close d.link
    rcases DialogueM.ping ⟨Gateway.newController _, _⟩ with ⟨identity, d⟩ | ⟨e, d⟩
    · exact .inl ⟨_, _, rfl, hclosed d⟩
    · exact .inr ⟨_, _, rfl, hclosed d⟩
  · rw [bind_of_error hopen]
    exact .inr ⟨e, g', rfl, openLink_error hopen⟩

/-- Asking for the number of the device is steady, started or stopped. -/
theorem keeps_eui : Keeps Steady (fun _ ↦ False) eui :=
  Keeps.get.bind fun _ ↦ .ite ((keeps_inSession _).bind fun _ ↦ .pure _) keeps_euiOfClosed

/-! ### Programs that set -/

theorem keeps_sameState_note (notice : Notice) :
    Keeps SameState (fun _ ↦ False) (note notice) where
  of_ok h := ((keeps_note notice).of_ok h).toSameState
  of_error h := ((keeps_note notice).of_error h).imp_right Steady.toSameState

theorem keeps_ensureStopped : Keeps SameState (fun _ ↦ False) ensureStopped :=
  Keeps.get.bind fun _ ↦
    .ite ((keeps_sameState_note _).bind fun _ ↦ .throw _) (.pure ())

/-- A change of the settings alone. -/
theorem keeps_modify {f : Gateway → Gateway} (hsession : ∀ g, (f g).session = g.session)
    (hlink : ∀ g, (f g).link = g.link) :
    Keeps SameState (fun _ ↦ False) (modify f : GatewayM Unit) := by
  refine .of_outcome fun g ↦ .inl ⟨(), f g, rfl, ?_, ?_⟩
  · rw [isStarted, isStarted, hsession]
  · intro htidy hstopped
    rw [isStarted, hsession] at hstopped
    rw [hlink]
    exact htidy hstopped

theorem keeps_configureBoard (board : BoardSettings) :
    Keeps SameState (fun _ ↦ False) (configureBoard board) := by
  refine keeps_ensureStopped.bind fun _ ↦ (keeps_sameState_note _).bind fun _ ↦ ?_
  exact keeps_modify (fun _ ↦ rfl) fun _ ↦ rfl

theorem keeps_configureRxChannel (index : UInt8) (channel : RxChannel) :
    Keeps SameState (fun _ ↦ False) (configureRxChannel index channel) := by
  refine keeps_ensureStopped.bind fun _ ↦ ?_
  split
  · refine Keeps.bind ?_ fun _ ↦ keeps_sameState_note _
    exact keeps_modify (fun _ ↦ rfl) fun _ ↦ rfl
  · exact .throw _

theorem keeps_configureRxChannels (index : Nat) (channels : List RxChannel) :
    Keeps SameState (fun _ ↦ False) (configureRxChannels index channels) := by
  induction channels generalizing index with
  | nil => exact .pure ()
  | cons channel channels ih =>
    exact (keeps_configureRxChannel _ channel).bind fun _ ↦ ih (index + 1)

theorem keeps_configureTxChannel (channel : TxChannel) :
    Keeps SameState (fun _ ↦ False) (configureTxChannel channel) :=
  keeps_ensureStopped.bind fun _ ↦ keeps_modify (fun _ ↦ rfl) fun _ ↦ rfl

/-- Applying settings changes nothing of the state. -/
theorem keeps_applySettings (settings : Settings) :
    Keeps SameState (fun _ ↦ False) (applySettings settings) :=
  (keeps_configureBoard _).bind fun _ ↦ (keeps_configureRxChannels _ _).bind fun _ ↦
    keeps_configureTxChannel _

/-- Settings that fit make a new gateway, which has the link of the old one. -/
theorem replaceBy_of_ok {settings : Settings} {g new : Gateway}
    (h : applySettings settings { link := g.link } = .ok () new) :
    replaceBy settings g =
      .ok () (if g.isStarted then { new with link := new.link.close } else new) := by
  rw [replaceBy, h]

/-- Settings that do not fit leave the gateway as it was, but for the notices. -/
theorem replaceBy_of_error {settings : Settings} {g new : Gateway} {e : Error}
    (h : applySettings settings { link := g.link } = .error e new) :
    replaceBy settings g = .error e { g with link := new.link } := by
  rw [replaceBy, h]

/-- A new gateway takes the place of one only with its port closed. -/
theorem keeps_replaceBy (settings : Settings) :
    Keeps (fun g g' ↦ g.Tidy → g'.Tidy) (fun _ ↦ False) (replaceBy settings) := by
  refine .of_outcome fun g ↦ ?_
  have hkept := keeps_applySettings settings
  have hlink (new : Gateway) (hnew : SameState { link := g.link } new) (htidy : g.Tidy)
      (hstopped : ¬ g.isStarted) : new.link.port = none := by
    refine hnew.tidy (fun _ ↦ htidy hstopped) ?_
    rw [hnew.isStarted_eq]
    exact Bool.false_ne_true
  rcases happly : applySettings settings { link := g.link } with ⟨⟨⟩, new⟩ | ⟨e, new⟩
  · refine .inl ⟨(), _, replaceBy_of_ok happly, fun htidy ↦ ?_⟩
    split
    · exact fun _ ↦ Link.port_close _
    · rename_i hstopped
      exact fun _ ↦ hlink new (hkept.of_ok happly) htidy hstopped
  · refine .inr ⟨e, _, replaceBy_of_error happly, fun htidy hstopped ↦ ?_⟩
    exact hlink new ((hkept.of_error happly).resolve_left id) htidy hstopped

/-! ### Programs that open a session -/

/-- Where the program succeeds the gateway is started, with the settings it had; where it fails the
gateway is as open as before. -/
structure Opening (program : GatewayM Unit) : Prop where
  of_ok : ∀ {g g' : Gateway}, program g = .ok () g' → g'.isStarted ∧ SameSettings g g'
  of_error : ∀ {g g' : Gateway} {e : Error}, program g = .error e g' → Steady g g'

/-- A start on a link that stands ready opens a session or fails with the link closed. -/
theorem opening_startAttached : Opening startAttached where
  of_ok {g g'} h := by
    by_cases hstarted : g.isStarted
    · rw [startAttached_of_isStarted hstarted] at h
      cases h
    · rw [startAttached_of_stopped hstarted] at h
      split at h
      all_goals cases h
      exact ⟨rfl, ⟨rfl, rfl, rfl⟩⟩
  of_error {g g' e} h := by
    by_cases hstarted : g.isStarted
    · rw [startAttached_of_isStarted hstarted] at h
      cases h
      exact steady_of_link id
    · rw [startAttached_of_stopped hstarted] at h
      split at h
      all_goals cases h
      exact steady_of_link fun _ ↦ Link.port_close _

theorem start_of_isStarted {g : Gateway} (h : g.isStarted) :
    start g = .error .alreadyStarted { g with link := g.link.note .sessionRunning } :=
  bind_of_error (ensureStopped_of_isStarted h)

theorem start_of_stopped {g : Gateway} (h : ¬ g.isStarted) :
    start g = (openLink >>= fun _ ↦ startAttached) g :=
  bind_of_ok (ensureStopped_of_stopped h)

theorem opening_start : Opening start where
  of_ok {g g'} h := by
    by_cases hstarted : g.isStarted
    · rw [start_of_isStarted hstarted] at h
      cases h
    · rw [start_of_stopped hstarted] at h
      obtain ⟨_, g₁, hopen, hattach⟩ := bind_eq_ok_iff.1 h
      obtain ⟨link, rfl⟩ := openLink_ok hopen
      obtain ⟨hstarted', hsettings⟩ := opening_startAttached.of_ok hattach
      exact ⟨hstarted', hsettings.board_eq, hsettings.rxChannels_eq, hsettings.txChannel_eq⟩
  of_error {g g' e} h := by
    by_cases hstarted : g.isStarted
    · rw [start_of_isStarted hstarted] at h
      cases h
      exact steady_of_link id
    · rw [start_of_stopped hstarted] at h
      rcases bind_eq_error_iff.1 h with hopen | ⟨_, g₁, hopen, hattach⟩
      · exact openLink_error hopen
      · obtain ⟨link, rfl⟩ := openLink_ok hopen
        -- the port is open by now, and closing it again is what matters
        have hstopped : ¬ ({ g with link := link } : Gateway).isStarted := hstarted
        rw [startAttached_of_stopped hstopped] at hattach
        split at hattach
        all_goals cases hattach
        exact steady_of_link fun _ ↦ Link.port_close _

/-! ### Programs that close the session -/

theorem closed_of_steady {g g' : Gateway} (h : Steady g g') {link : Link}
    (hport : link.port = none) : Closed g { g' with session := none, link := link } where
  stopped := Bool.false_ne_true
  tidy _ _ := hport
  board_eq := h.board_eq
  rxChannels_eq := h.rxChannels_eq
  txChannel_eq := h.txChannel_eq

/-- A steady program that finds no session leaves the gateway closed. -/
theorem closed_of_stopped {g g' : Gateway} (h : Steady g g') (hstopped : ¬ g'.isStarted) :
    Closed g g' where
  stopped := hstopped
  tidy := h.tidy
  toSameSettings := h.toSameSettings

/-- A reset before the session closes always ends well. -/
theorem exists_resetQuietly (target : ResetTarget) (report : Error → Notice) (d : Dialogue) :
    ∃ d', resetQuietly target report d = .ok () d' := by
  unfold resetQuietly
  rcases DialogueM.reset target d with ⟨⟨⟩, d'⟩ | ⟨e, d'⟩
  · exact ⟨d', rfl⟩
  · exact ⟨_, rfl⟩

/-- A reset whose failure is only noted succeeds in a session. -/
theorem exists_inSession_resetQuietly {g : Gateway} (h : g.isStarted) (target : ResetTarget)
    (report : Error → Notice) :
    ∃ g', inSession (resetQuietly target report) g = .ok () g' ∧ Steady g g' := by
  obtain ⟨controller, hsession⟩ := Option.isSome_iff_exists.1 h
  obtain ⟨d, hreset⟩ := exists_resetQuietly target report ⟨controller, g.link⟩
  refine ⟨_, ?_, steady_of_session h d⟩
  rw [inSession, hsession]
  dsimp only
  rw [hreset]

/-- Stopping always succeeds. -/
theorem stop_ok (g : Gateway) : ∃ g', stop g = .ok () g' ∧ Closed g g' := by
  by_cases hstarted : g.isStarted
  · obtain ⟨g₁, hrx, hsteady₁⟩ := exists_inSession_resetQuietly hstarted .rxAll .rxResetFailed
    have hstarted₁ : g₁.isStarted := hsteady₁.isStarted_eq ▸ hstarted
    obtain ⟨g₂, htx, hsteady₂⟩ := exists_inSession_resetQuietly hstarted₁ .tx .txResetFailed
    refine ⟨{ g₂ with session := none, link := g₂.link.close.note .sessionStopped }, ?_, ?_⟩
    · rw [stop, get_bind, if_pos hstarted, bind_of_ok hrx, bind_of_ok htx]
      rfl
    · exact closed_of_steady (IsTrans.trans _ _ _ hsteady₁ hsteady₂) (Link.port_close _)
  · refine ⟨{ g with link := g.link.note .sessionAlreadyStopped }, ?_, ?_⟩
    · rw [stop, get_bind, if_neg hstarted]
      rfl
    · exact closed_of_stopped (steady_of_link id) hstarted

/-- A stop closes the session, whatever comes of the resets. -/
theorem keeps_stop : Keeps Closed (fun _ ↦ False) stop :=
  .of_outcome fun g ↦
    have ⟨g', hok, hclosed⟩ := stop_ok g
    .inl ⟨(), g', hok, hclosed⟩

/-- The session ends also where the board was not told. -/
theorem keeps_enterBootloader : Keeps Closed (fun _ ↦ False) enterBootloader := by
  refine .of_outcome fun g ↦ ?_
  unfold enterBootloader
  rcases hsession : inSession DialogueM.enterBootloader g with ⟨⟨⟩, g'⟩ | ⟨e, g'⟩
  · have hsteady : Steady g g' := (keeps_inSession _).of_ok hsession
    exact .inl ⟨(), _, rfl, closed_of_steady hsteady (Link.port_close _)⟩
  · have hsteady : Steady g g' := ((keeps_inSession _).of_error hsession).resolve_left id
    refine .inr ⟨e, _, rfl, ?_⟩
    split
    · exact closed_of_steady hsteady (Link.port_close _)
    · rename_i hstopped
      exact closed_of_stopped hsteady hstopped

end GatewayM

namespace Gateway

/-! ### Operations by their kind -/

namespace Operation

open GatewayM

/-- A program keeps the same when it is made an operation. -/
theorem keeps_completing {R : Gateway → Gateway → Prop} {program : GatewayM Unit}
    (h : Keeps R (fun _ ↦ False) program) : Keeps R (fun _ ↦ False) (completing program) where
  of_ok hrun := by
    obtain ⟨_, _, hprogram, hdone⟩ := bind_eq_ok_iff.1 hrun
    obtain ⟨-, rfl⟩ := pure_eq_ok_iff.1 hdone
    exact h.of_ok hprogram
  of_error hrun := by
    rcases bind_eq_error_iff.1 hrun with hprogram | ⟨_, _, -, hdone⟩
    · exact h.of_error hprogram
    · exact (pure_ne_error.1 hdone).elim

/-- Every operation that neither opens nor closes a session, sets nothing and replaces nothing is
steady. -/
theorem keeps_run {operation : Operation} (hopens : ¬ operation.opens)
    (hcloses : ¬ operation.closes) (hconfigures : ¬ operation.configures)
    (hrenews : ¬ operation.renews) : Keeps Steady (fun _ ↦ False) operation.run := by
  cases operation with
  | rxChannel index => exact Keeps.get.bind fun _ ↦ .pure _
  | txChannel => exact Keeps.get.bind fun _ ↦ .pure _
  | receive limit => exact (keeps_receive limit).map _
  | send packet => exact keeps_completing (keeps_inSession _)
  | sendAndWait packet limit => exact (keeps_sendAndWait packet limit).map _
  | txActivity => exact keeps_txActivity.map _
  | rxActivity => exact keeps_rxActivity.map _
  | abortTx => exact keeps_completing (keeps_inSession _)
  | reset withMcu => exact keeps_completing (keeps_inSession _)
  | pulseCounter => exact ((keeps_inSession _).bind fun _ ↦ .pure _).map _
  | instantCounter => exact ((keeps_inSession _).bind fun _ ↦ .pure _).map _
  | temperature => exact ((keeps_inSession _).bind fun _ ↦ .pure _).map _
  | eui => exact keeps_eui.map _
  | readRegister radio address => exact (keeps_inSession _).map _
  | writeRegister radio address value => exact keeps_completing (keeps_inSession _)
  | setRssiCoefficient radio coefficient => exact keeps_completing (keeps_inSession _)
  | start | startAttached => exact absurd rfl hopens
  | stop | enterBootloader => exact absurd rfl hcloses
  | replaceBy settings => exact absurd rfl hrenews
  | _ => exact absurd rfl hconfigures

/-- Operations that configure change settings and nothing of the state. -/
theorem keeps_run_of_configures {operation : Operation} (h : operation.configures) :
    Keeps SameState (fun _ ↦ False) operation.run := by
  cases operation with
  | configureBoard board => exact keeps_completing (keeps_configureBoard board)
  | configureRxChannel index channel =>
    exact keeps_completing (keeps_configureRxChannel index channel)
  | configureTxChannel channel => exact keeps_completing (keeps_configureTxChannel channel)
  | applySettings settings => exact keeps_completing (keeps_applySettings settings)
  | _ => cases h

/-- Operations that close leave no session and change no setting. -/
theorem keeps_run_of_closes {operation : Operation} (h : operation.closes) :
    Keeps Closed (fun _ ↦ False) operation.run := by
  cases operation with
  | stop => exact keeps_completing keeps_stop
  | enterBootloader => exact keeps_completing keeps_enterBootloader
  | _ => cases h

/-- Operations that make a new gateway leave it in order. -/
theorem keeps_run_of_renews {operation : Operation} (h : operation.renews) :
    Keeps (fun g g' ↦ g.Tidy → g'.Tidy) (fun _ ↦ False) operation.run := by
  cases operation with
  | replaceBy settings => exact keeps_completing (keeps_replaceBy settings)
  | _ => cases h

end Operation

/-! ### Steps -/

section Steps

variable {operation : Operation} {g : Gateway}

theorem step_of_ok {g' : Gateway} {answer : Answer} (h : operation.run g = .ok answer g') :
    step operation g = (.ok answer, g') := by
  rw [step, h]

theorem step_of_error {g' : Gateway} {e : Error} (h : operation.run g = .error e g') :
    step operation g = (.error e, g') := by
  rw [step, h]

/-- An answer is given where the program succeeds. -/
theorem step_eq_ok_iff {g' : Gateway} {answer : Answer} :
    step operation g = (.ok answer, g') ↔ operation.run g = .ok answer g' := by
  constructor
  · intro h
    rcases hrun : operation.run g with ⟨answer', after⟩ | ⟨e, after⟩
    · cases (step_of_ok hrun).symm.trans h
      rfl
    · cases (step_of_error hrun).symm.trans h
  · exact step_of_ok

/-- An error is given where the program fails. -/
theorem step_eq_error_iff {g' : Gateway} {e : Error} :
    step operation g = (.error e, g') ↔ operation.run g = .error e g' := by
  constructor
  · intro h
    rcases hrun : operation.run g with ⟨answer, after⟩ | ⟨e', after⟩
    · cases (step_of_ok hrun).symm.trans h
    · cases (step_of_error hrun).symm.trans h
      rfl
  · exact step_of_error

/-- What an operation keeps, its step keeps. -/
theorem step_of_keeps {R : Gateway → Gateway → Prop}
    (h : Keeps R (fun _ ↦ False) operation.run) : R g (step operation g).2 := by
  rcases hrun : operation.run g with ⟨answer, g'⟩ | ⟨e, g'⟩
  · rw [step_of_ok hrun]
    exact h.of_ok hrun
  · rw [step_of_error hrun]
    exact (h.of_error hrun).resolve_left id

/-- Opening a session ends with a started gateway that has the settings it had, or fails and leaves
the gateway as open as before. -/
theorem step_of_opens (h : operation.opens) :
    (∃ g', step operation g = (.ok .done, g') ∧ g'.isStarted ∧ SameSettings g g') ∨
      ∃ e g', step operation g = (.error e, g') ∧ Steady g g' := by
  have hstep {program : GatewayM Unit} (hprogram : GatewayM.Opening program)
      (hrun : operation.run = Operation.completing program) :
      (∃ g', step operation g = (.ok .done, g') ∧ g'.isStarted ∧ SameSettings g g') ∨
        ∃ e g', step operation g = (.error e, g') ∧ Steady g g' := by
    rw [step, hrun]
    rcases houtcome : program g with ⟨⟨⟩, g'⟩ | ⟨e, g'⟩
    · refine .inl ⟨g', ?_, hprogram.of_ok houtcome⟩
      rw [Operation.completing, bind_of_ok houtcome]
      rfl
    · refine .inr ⟨e, g', ?_, hprogram.of_error houtcome⟩
      rw [Operation.completing, bind_of_error houtcome]
  cases operation with
  | start => exact hstep GatewayM.opening_start rfl
  | startAttached => exact hstep GatewayM.opening_startAttached rfl
  | _ => cases h

/-- An operation that neither opens nor closes a session keeps the state of the gateway. -/
theorem sameState_step (hopens : ¬ operation.opens) (hcloses : ¬ operation.closes)
    (hrenews : ¬ operation.renews) : SameState g (step operation g).2 := by
  by_cases hconfigures : operation.configures
  · exact step_of_keeps (Operation.keeps_run_of_configures hconfigures)
  · have hsteady : Steady g (step operation g).2 :=
      step_of_keeps (Operation.keeps_run hopens hcloses hconfigures hrenews)
    exact hsteady.toSameState

/-- After an operation that closes the gateway is closed. -/
theorem closed_step (h : operation.closes) : Closed g (step operation g).2 :=
  step_of_keeps (Operation.keeps_run_of_closes h)

/-- Operations that open a session change no setting. -/
theorem sameSettings_of_opens (h : operation.opens) : SameSettings g (step operation g).2 := by
  rcases step_of_opens h with ⟨g', hstep, -, hsettings⟩ | ⟨e, g', hstep, hsteady⟩
  · rw [hstep]
    exact hsettings
  · rw [hstep]
    exact hsteady.toSameSettings

/-- While the gateway is started, or by an operation that opens a session, no setting changes. -/
theorem sameSettings_step (hrenews : ¬ operation.renews) (h : g.isStarted ∨ operation.opens) :
    SameSettings g (step operation g).2 := by
  by_cases hopens : operation.opens
  · exact sameSettings_of_opens hopens
  by_cases hcloses : operation.closes
  · exact (closed_step hcloses).toSameSettings
  by_cases hconfigures : operation.configures
  · have hstarted : g.isStarted := h.resolve_right hopens
    rw [step_of_error (Operation.needsStopped_run (.inr hconfigures) g hstarted)]
    exact ⟨rfl, rfl, rfl⟩
  · have hsteady : Steady g (step operation g).2 :=
      step_of_keeps (Operation.keeps_run hopens hcloses hconfigures hrenews)
    exact hsteady.toSameSettings

/-- Whatever the operation, no port stays open without a session. -/
theorem tidy_step (operation : Operation) (h : g.Tidy) : (step operation g).2.Tidy := by
  by_cases hopens : operation.opens
  · rcases step_of_opens hopens with ⟨g', hstep, hstarted, -⟩ | ⟨e, g', hstep, hsteady⟩
    · rw [hstep]
      exact fun hstopped ↦ absurd hstarted hstopped
    · rw [hstep]
      exact hsteady.tidy h
  by_cases hcloses : operation.closes
  · exact (closed_step hcloses).tidy h
  by_cases hrenews : operation.renews
  · exact step_of_keeps (Operation.keeps_run_of_renews hrenews) h
  · exact (sameState_step hopens hcloses hrenews).tidy h

end Steps

/-! ### The life cycle -/

/-- What an operation with that outcome may have done to the session, its link and the settings. -/
structure LifeCycle (operation : Operation) (outcome : Except Error Answer) (g g' : Gateway) :
    Prop where
  /-- A session is opened only by an operation that opens one, and that operation succeeds. -/
  opened : ¬ g.isStarted → g'.isStarted → operation.opens ∧ ∃ answer, outcome = .ok answer
  /-- A session is closed only by an operation that closes it. -/
  closed : g.isStarted → ¬ g'.isStarted → operation.closes
  /-- Every other operation keeps the state, whatever its outcome. -/
  kept : ¬ operation.opens → ¬ operation.closes → g'.isStarted = g.isStarted
  /-- An operation that opens a session and succeeds did open it. -/
  started : operation.opens → ∀ answer, outcome = .ok answer → g'.isStarted
  /-- Where it fails, nothing is held of the link and no setting has changed. -/
  failed : operation.opens → ¬ g.isStarted → ∀ e, outcome = .error e →
    ¬ g'.isStarted ∧ g'.link.port = none ∧ SameSettings g g'
  /-- After an operation that closes the session there is none, whatever the outcome. -/
  ended : operation.closes → ¬ g'.isStarted ∧ g'.link.port = none
  /-- A started gateway is neither opened again nor set; it only notes the attempt. -/
  refused : g.isStarted → operation.opens ∨ operation.configures →
    outcome = .error .alreadyStarted ∧ g' = { g with link := g.link.note .sessionRunning }
  /-- The settings of a started gateway stay, and opening a session does not change them. -/
  settled : g.isStarted ∨ operation.opens → SameSettings g g'
  /-- What needs a session does nothing without one. -/
  idle : ¬ g.isStarted → operation.needsSession → outcome = .error .notStarted ∧ g' = g

/-- Every operation on a gateway in order takes part in the life cycle by its kind. -/
theorem step_lifeCycle {operation : Operation} (hrenews : ¬ operation.renews) {g : Gateway}
    (htidy : g.Tidy) : LifeCycle operation (step operation g).1 g (step operation g).2 where
  opened hstopped hstarted' := by
    by_cases hopens : operation.opens
    · rcases step_of_opens hopens with ⟨g', hstep, -⟩ | ⟨e, g', hstep, hsteady⟩
      · exact ⟨hopens, .done, congrArg Prod.fst hstep⟩
      · rw [hstep, hsteady.isStarted_eq] at hstarted'
        exact absurd hstarted' hstopped
    by_cases hcloses : operation.closes
    · exact absurd hstarted' (closed_step hcloses).stopped
    · rw [(sameState_step hopens hcloses hrenews).isStarted_eq] at hstarted'
      exact absurd hstarted' hstopped
  closed hstarted hstopped' := by
    by_contra hcloses
    by_cases hopens : operation.opens
    · rcases step_of_opens hopens with ⟨g', hstep, hstarted', -⟩ | ⟨e, g', hstep, hsteady⟩
      · rw [hstep] at hstopped'
        exact hstopped' hstarted'
      · rw [hstep, hsteady.isStarted_eq] at hstopped'
        exact hstopped' hstarted
    · rw [(sameState_step hopens hcloses hrenews).isStarted_eq] at hstopped'
      exact hstopped' hstarted
  kept hopens hcloses := (sameState_step hopens hcloses hrenews).isStarted_eq
  started hopens answer hok := by
    rcases step_of_opens hopens with ⟨g', hstep, hstarted', -⟩ | ⟨e, g', hstep, -⟩
    · rw [hstep]
      exact hstarted'
    · rw [hstep] at hok
      cases hok
  failed hopens hstopped e herror := by
    rcases step_of_opens hopens with ⟨g', hstep, -⟩ | ⟨e', g', hstep, hsteady⟩
    · rw [hstep] at herror
      cases herror
    · have hstopped' : ¬ g'.isStarted := by
        rw [hsteady.isStarted_eq]
        exact hstopped
      rw [hstep]
      exact ⟨hstopped', hsteady.tidy htidy hstopped', hsteady.toSameSettings⟩
  ended hcloses :=
    have hclosed := closed_step hcloses
    ⟨hclosed.stopped, hclosed.tidy htidy hclosed.stopped⟩
  refused hstarted hkind := by
    rw [step_of_error (Operation.needsStopped_run hkind g hstarted)]
    exact ⟨rfl, rfl⟩
  settled h := sameSettings_step hrenews h
  idle hstopped hneeds := by
    rw [step_of_error (Operation.needsSession_run hneeds g hstopped)]
    exact ⟨rfl, rfl⟩

/-! ### Runs -/

/-- A gateway in order stays so through every run. -/
theorem tidy_run (operations : List Operation) {g : Gateway} (h : g.Tidy) :
    (run operations g).2.Tidy := by
  induction operations generalizing g with
  | nil => exact h
  | cons operation operations ih => exact ih (tidy_step operation h)

/-- A session lives, with the settings it was opened with, until an operation closes it. -/
theorem run_of_isStarted (operations : List Operation) {g : Gateway} (h : g.isStarted)
    (hoperations : ∀ operation ∈ operations, ¬ operation.closes ∧ ¬ operation.renews) :
    (run operations g).2.isStarted ∧ SameSettings g (run operations g).2 := by
  induction operations generalizing g with
  | nil => exact ⟨h, Std.Refl.refl g⟩
  | cons operation operations ih =>
    obtain ⟨hcloses, hrenews⟩ := hoperations operation List.mem_cons_self
    have hsettings := sameSettings_step hrenews (.inl h)
    have hstarted : (step operation g).2.isStarted := by
      by_cases hopens : operation.opens
      · rw [step_of_error (Operation.needsStopped_run (.inl hopens) g h)]
        exact h
      · rw [(sameState_step hopens hcloses hrenews).isStarted_eq]
        exact h
    obtain ⟨hrun, hsettings'⟩ :=
      ih hstarted fun operation hmem ↦ hoperations operation (List.mem_cons_of_mem _ hmem)
    exact ⟨hrun, IsTrans.trans _ _ _ hsettings hsettings'⟩

/-- **The life cycle of a session**: whatever was done to a gateway and whatever its link does, the
operation that comes next keeps to the life cycle, no port is open without a session, and a session
that was opened lives with the settings of the gateway at its start until an operation closes it. -/
theorem run_lifeCycle (operations : List Operation) {g : Gateway} (h : g.Tidy) :
    let after := (run operations g).2
    after.Tidy ∧
    (∀ operation : Operation, ¬ operation.renews →
      LifeCycle operation (step operation after).1 after (step operation after).2) ∧
    ∀ opening : Operation, opening.opens → ∀ answer, (step opening after).1 = .ok answer →
      ∀ session : List Operation,
        (∀ operation ∈ session, ¬ operation.closes ∧ ¬ operation.renews) →
          (run session (step opening after).2).2.isStarted ∧
            SameSettings after (run session (step opening after).2).2 := by
  have htidy := tidy_run operations h
  refine ⟨htidy, fun operation hrenews ↦ step_lifeCycle hrenews htidy, ?_⟩
  intro opening hopens answer hok session hsession
  have hrenews : ¬ opening.renews := by
    cases opening with
    | start | startAttached => exact Bool.false_ne_true
    | _ => cases hopens
  have hopening := step_lifeCycle hrenews htidy
  obtain ⟨hstarted, hsettings⟩ :=
    run_of_isStarted session (hopening.started hopens answer hok) hsession
  exact ⟨hstarted, IsTrans.trans _ _ _ (hopening.settled (.inr hopens)) hsettings⟩

/-- A board in good order is started, and then neither set nor started again. -/
theorem run_lifeCycle_sample :
    let g := sample true 3 [0, 1, 2]
    let started := (step .startAttached g).2
    g.Tidy ∧ (step .startAttached g).1 = .ok .done ∧
      (run [.configureTxChannel { enabled := true }, .startAttached] started).2.isStarted ∧
      SameSettings g
        (run [.configureTxChannel { enabled := true }, .startAttached] started).2 := by
  have htidy : (sample true 3 [0, 1, 2]).Tidy := fun _ ↦ rfl
  have hok : (step .startAttached (sample true 3 [0, 1, 2])).1 = .ok .done := by decide +kernel
  obtain ⟨-, -, hlives⟩ := run_lifeCycle [] htidy
  exact ⟨htidy, hok, hlives .startAttached rfl .done hok _ (by decide)⟩

end Gateway

end LoraConcentrator
