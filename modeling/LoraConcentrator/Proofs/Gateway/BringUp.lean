import LoraConcentrator.Gateway.Session
import LoraConcentrator.Proofs.Controller.Requests

/-!
# Bringing a board up

A session is opened by four requests that meet the device and then by one request for each channel
that is configured, in the order of the radios (`sends_meet`, `sends_configureRadios`). The number
of radios comes from the first frame on the link (`Link.Reports`), which is the reply to the first
request, and no later exchange changes it, so every radio that was configured is one the device has
(`configureRadios_ok`). A gateway that is stopped starts exactly when its board can be brought up
(`startAttached_of_stopped`).
-/

namespace LoraConcentrator

open Link Program

/-! ### What the device reports -/

/-- The first frame that reads meet, after some that fail, identifies the device. -/
def Link.Reports (link : Link) (identity : Identity) : Prop :=
  ∃ waits reply rest frame, (∀ a ∈ waits, a.isFailure) ∧ IsFrame reply ∧
    link.stream = waits ++ (reply.map .byte ++ rest) ∧ Frame.parse reply = .ok frame ∧
      Identity.ofFrame frame = .ok identity

/-- What follows a frame does not change how it is taken apart. -/
theorem Frame.parse_append {bs : Bytes} {frame : Frame} (hframe : IsFrame bs)
    (h : parse bs = .ok frame) (rest : Bytes) : parse (bs ++ rest) = .ok frame := by
  obtain ⟨header, payload, hlen, rfl⟩ := hframe
  rw [parse_of_length_eq hlen] at h
  cases h
  refine parse_eq_ok_iff.2 ⟨payload ++ rest, List.append_assoc .., ?_, ?_⟩
  · rw [List.length_append, hlen]
    exact Nat.le_add_right _ _
  · rw [← hlen, List.take_left]

/-- The waits before a frame are skipped, and no more than these. -/
theorem dropWhile_isFailure_append {waits rest : List Arrival} {bs : Bytes}
    (hwaits : ∀ a ∈ waits, a.isFailure) (hframe : IsFrame bs) :
    (waits ++ (bs.map Arrival.byte ++ rest)).dropWhile Arrival.isFailure =
      bs.map Arrival.byte ++ rest := by
  obtain ⟨header, payload, -, rfl⟩ := hframe
  rw [List.dropWhile_append_of_pos hwaits]
  rfl

/-- The shorter of two frames at the front is at the front of the other. -/
theorem parse_eq_parse_of_append {bs bs' c : Bytes} {frame frame' : Frame} (hframe : IsFrame bs)
    (hparse : Frame.parse bs = .ok frame) (hparse' : Frame.parse bs' = .ok frame')
    (h : bs'.map Arrival.byte = bs.map .byte ++ c.map .byte) : frame' = frame := by
  rw [← List.map_append] at h
  obtain rfl := List.map_injective_iff.2 (fun _ _ ↦ Arrival.byte.inj) h
  rw [Frame.parse_append hframe hparse] at hparse'
  exact (Except.ok.inj hparse').symm

/-- A link reports one identity. -/
theorem Link.Reports.unique {link : Link} {identity identity' : Identity}
    (h : link.Reports identity) (h' : link.Reports identity') : identity' = identity := by
  obtain ⟨waits, reply, rest, frame, hwaits, hreply, hstream, hparse, hid⟩ := h
  obtain ⟨waits', reply', rest', frame', hwaits', hreply', hstream', hparse', hid'⟩ := h'
  -- both replies start where the reads stop failing
  have hfront : reply.map Arrival.byte ++ rest = reply'.map .byte ++ rest' := by
    rw [← dropWhile_isFailure_append hwaits hreply, ← hstream, hstream',
      dropWhile_isFailure_append hwaits' hreply']
  suffices frame' = frame by
    rw [this, hid] at hid'
    exact (Except.ok.inj hid').symm
  obtain ⟨c, hc, -⟩ | ⟨c, hc, -⟩ := List.append_eq_append_iff.1 hfront
  · obtain ⟨_, c, -, -, rfl⟩ := List.map_eq_append_iff.1 hc
    exact parse_eq_parse_of_append hreply hparse hparse' hc
  · obtain ⟨_, c, -, -, rfl⟩ := List.map_eq_append_iff.1 hc
    exact (parse_eq_parse_of_append hreply' hparse' hparse hc).symm

namespace DialogueM

variable {d d' : Dialogue}

/-- A reply that is read as an identity is the first frame that arrives. -/
theorem reports_of_exchanged {request : Request} {written reply : Bytes} {frame : Frame}
    {identity : Identity} (h : Exchanged request written reply frame d d')
    (hid : Identity.ofFrame frame = .ok identity) : d.link.Reports identity := by
  obtain ⟨waits, hwaits, hm⟩ := h.moved
  exact ⟨waits, reply, d'.link.stream, frame, hwaits, h.isFrame,
    hm.stream_eq.trans (List.append_assoc ..), h.parse_eq, hid⟩

/-- A device that was asked who it is reported it, and the controller knows its radios. -/
theorem ping_ok {identity : Identity} (h : ping d = .ok identity d') :
    d.link.Reports identity ∧ d'.controller.rxRadios = identity.rxRadios := by
  obtain ⟨identity', d₁, hask, h⟩ := bind_eq_ok_iff.1 h
  obtain ⟨written, reply, frame, hx, hid⟩ := ask_ok hask
  obtain ⟨_, d₂, hmodify, h⟩ := bind_eq_ok_iff.1 h
  obtain ⟨_, d₃, hnote, h⟩ := bind_eq_ok_iff.1 h
  obtain ⟨rfl, rfl⟩ := pure_eq_ok_iff.1 h
  obtain rfl := note_eq_ok_iff.1 hnote
  cases hmodify
  exact ⟨reports_of_exchanged hx hid, rfl⟩

/-! ### Meeting the device -/

/-- The requests that meet a device. -/
def meetRequests : List Request := [.ping, .reset .rxAll, .reset .tx, .getStatus]

/-- The firmware is checked without a request. -/
theorem sends_checkFirmware (identity : Identity) : Sends [] (checkFirmware identity) := by
  have haccepted : Sends [] (do
      note (.firmwareAccepted identity.version)
      note (.euiRead identity.eui)) :=
    (sends_note _).after_silent fun _ ↦ sends_note _
  exact .ite ((sends_note _).after_silent fun _ ↦
    Sends.throw [] (.firmwareMismatch firmwareVersion identity.firmware)) haccepted

/-- Meeting the device takes four requests. -/
theorem sends_meet : Sends meetRequests meet :=
  sends_ping.bind fun _ ↦ (sends_checkFirmware _).after_silent fun _ ↦
    sends_resetAll.bind fun _ ↦ sends_status.then_silent fun _ ↦ .pure _

/-- The firmware says nothing of the numbers of radios. -/
theorem keeps_checkFirmware (identity : Identity) :
    Keeps SameRadios (fun _ ↦ False) (checkFirmware identity) := by
  have haccepted : Keeps SameRadios (fun _ ↦ False) (do
      note (.firmwareAccepted identity.version)
      note (.euiRead identity.eui)) :=
    (kept_sameRadios.note _).bind fun _ ↦ kept_sameRadios.note _
  exact .ite (kept_sameRadios.refuse _ (.firmwareMismatch firmwareVersion identity.firmware))
    haccepted

/-- A device that was met reported its identity, and the controller knows its radios. -/
theorem meet_ok {identity : Identity} (h : meet d = .ok identity d') :
    d.link.Reports identity ∧ d'.controller.rxRadios = identity.rxRadios := by
  obtain ⟨identity', d₁, hping, h⟩ := bind_eq_ok_iff.1 h
  obtain ⟨_, d₂, hfirmware, h⟩ := bind_eq_ok_iff.1 h
  obtain ⟨_, d₃, hreset, h⟩ := bind_eq_ok_iff.1 h
  obtain ⟨_, d₄, hstatus, h⟩ := bind_eq_ok_iff.1 h
  obtain ⟨rfl, rfl⟩ := pure_eq_ok_iff.1 h
  obtain ⟨hreports, hradios⟩ := ping_ok hping
  refine ⟨hreports, ?_⟩
  rw [(kept_sameRadios.status.of_ok hstatus).rx_eq,
    ((kept_sameRadios.resetAll false).of_ok hreset).rx_eq,
    ((keeps_checkFirmware _).of_ok hfirmware).rx_eq, hradios]

/-! ### Configuring radios -/

/-- The request that configures a radio for its channel. -/
def configRequest (channels : RxChannels) (radio : Fin rxChannelCount) : Request :=
  .configRx (channels[radio].setup (UInt8.ofNat radio))

/-- The radios, of some, whose channels are enabled. -/
def enabledRadios (channels : RxChannels) (radios : List (Fin rxChannelCount)) :
    List (Fin rxChannelCount) :=
  radios.filter fun radio ↦ channels[radio].enabled

section Configuring

variable {radio1First : Bool} {channels : RxChannels} {radio : Fin rxChannelCount}
  {radios : List (Fin rxChannelCount)}

/-- The radios that are configured are those visited with their channel enabled. -/
theorem mem_enabledRadios : radio ∈ enabledRadios channels radios ↔
    radio ∈ radios ∧ channels[radio].enabled :=
  List.mem_filter

theorem enabledRadios_cons_of_enabled (h : channels[radio].enabled) :
    enabledRadios channels (radio :: radios) = radio :: enabledRadios channels radios :=
  List.filter_cons_of_pos (p := fun radio : Fin rxChannelCount ↦ channels[radio].enabled) h

theorem enabledRadios_cons_of_disabled (h : ¬ channels[radio].enabled) :
    enabledRadios channels (radio :: radios) = enabledRadios channels radios :=
  List.filter_cons_of_neg (p := fun radio : Fin rxChannelCount ↦ channels[radio].enabled) h

/-- A radio whose channel is enabled is configured with one request, unless a check keeps it from
this. -/
theorem sends_configureRadio_of_enabled (h : channels[radio].enabled) :
    Sends [configRequest channels radio] (configureRadio radio1First channels radio) := by
  have hconfig : Sends [configRequest channels radio] (do
      note (.radioConfigured radio channels[radio])
      configRx (UInt8.ofNat radio) channels[radio]) :=
    (sends_note _).after_silent fun _ ↦ sends_configRx _ _
  unfold configureRadio
  rw [if_pos h]
  exact .ite ((sends_note _).after_silent fun _ ↦ Sends.throw _ .radio1Disabled) hconfig

/-- A radio whose channel is disabled is left alone. -/
theorem configureRadio_of_disabled (h : ¬ channels[radio].enabled) :
    configureRadio radio1First channels radio = pure () := by
  unfold configureRadio
  rw [if_neg h]

/-- Radios are configured in order, those whose channels are disabled left out. -/
theorem sends_configureRadios :
    Sends ((enabledRadios channels radios).map (configRequest channels))
      (configureRadios radio1First channels radios) := by
  induction radios with
  | nil => exact .pure ()
  | cons radio radios ih =>
    unfold configureRadios
    by_cases h : channels[radio].enabled
    · rw [enabledRadios_cons_of_enabled h]
      exact (sends_configureRadio_of_enabled h).bind fun _ ↦ ih
    · rw [enabledRadios_cons_of_disabled h, configureRadio_of_disabled h]
      exact (Sends.pure ()).after_silent fun _ ↦ ih

/-- No radio that is configured changes their number. -/
theorem keeps_configureRadio :
    Keeps SameRadios (fun _ ↦ False) (configureRadio radio1First channels radio) := by
  have hconfig : Keeps SameRadios (fun _ ↦ False) (do
      note (.radioConfigured radio channels[radio])
      configRx (UInt8.ofNat radio) channels[radio]) :=
    (kept_sameRadios.note _).bind fun _ ↦ kept_sameRadios.configRx _ _
  exact .ite (.ite (kept_sameRadios.refuse _ .radio1Disabled) hconfig) (.pure _)

/-- A radio that was configured is one the device has, and radio 1 is enabled where it goes
first. -/
theorem configureRadio_ok (henabled : channels[radio].enabled)
    (h : configureRadio radio1First channels radio d = .ok () d') :
    radio < d.controller.rxRadios.toNat ∧ (radio1First → channels[1].enabled) := by
  unfold configureRadio at h
  rw [if_pos henabled] at h
  split at h
  · obtain ⟨_, _, -, h⟩ := bind_eq_ok_iff.1 h
    obtain ⟨_, _, h, -⟩ := bind_eq_ok_iff.1 h
    exact (throw_ne_ok.1 h).elim
  · rename_i hguard
    obtain ⟨_, d₁, hnote, h⟩ := bind_eq_ok_iff.1 h
    obtain rfl := note_eq_ok_iff.1 hnote
    have hlt := UInt8.lt_iff_toNat_lt.1 (lt_of_configRx_ok h)
    rw [UInt8.toNat_ofNat', Nat.mod_eq_of_lt (Nat.lt_trans radio.isLt (by decide))] at hlt
    exact ⟨hlt, fun hfirst ↦ by_contra fun hdisabled ↦ hguard ⟨hfirst, hdisabled⟩⟩

/-- The same of a row of radios. -/
theorem configureRadios_ok (h : configureRadios radio1First channels radios d = .ok () d')
    (hmem : radio ∈ enabledRadios channels radios) :
    radio < d.controller.rxRadios.toNat ∧ (radio1First → channels[1].enabled) := by
  induction radios generalizing d with
  | nil => cases hmem
  | cons first radios ih =>
    obtain ⟨_, d₁, hfirst, hrest⟩ := bind_eq_ok_iff.1 h
    obtain ⟨hmem, henabled⟩ := mem_enabledRadios.1 hmem
    rcases List.mem_cons.1 hmem with rfl | hmem
    · exact configureRadio_ok henabled hfirst
    · -- the number of radios known is still the same
      rw [← (keeps_configureRadio.of_ok hfirst).rx_eq]
      exact ih hrest (mem_enabledRadios.2 ⟨hmem, henabled⟩)

end Configuring

/-! ### Bringing the board up -/

/-- What bringing a board up did: it met the device and configured its enabled radios in order. -/
theorem bringUp_ok {radio1First : Bool} {channels : RxChannels}
    (h : bringUp radio1First channels d = .ok () d') :
    ∃ identity radios, d.link.Reports identity ∧
      radios = enabledRadios channels (radioOrder radio1First identity.rxRadios.toNat) ∧
      Sent (meetRequests ++ radios.map (configRequest channels)) d d' ∧
      ∀ radio ∈ radios,
        radio < identity.rxRadios.toNat ∧ (radio1First → channels[1].enabled) := by
  obtain ⟨identity, d₁, hmeet, hconfigure⟩ := bind_eq_ok_iff.1 h
  obtain ⟨hreports, hradios⟩ := meet_ok hmeet
  refine ⟨identity, _, hreports, rfl, (sends_meet.of_ok hmeet).trans
    (sends_configureRadios.of_ok hconfigure), fun radio hmem ↦ ?_⟩
  rw [← hradios]
  exact configureRadios_ok hconfigure hmem

end DialogueM

/-! ### Starting a gateway -/

namespace GatewayM

variable {g g' : Gateway}

/-- A gateway that is started says so and does nothing. -/
theorem ensureStopped_of_isStarted (h : g.isStarted) :
    ensureStopped g = .error .alreadyStarted { g with link := g.link.note .sessionRunning } := by
  rw [ensureStopped, get_bind, if_pos h]
  rfl

theorem ensureStopped_of_stopped (h : ¬ g.isStarted) : ensureStopped g = .ok () g := by
  rw [ensureStopped, get_bind, if_neg h]
  rfl

/-- A gateway that is started only says so. -/
theorem startAttached_of_isStarted (h : g.isStarted) :
    startAttached g = .error .alreadyStarted { g with link := g.link.note .sessionRunning } :=
  bind_of_error (ensureStopped_of_isStarted h)

/-- A stopped gateway starts with a session of its own, and closes its link when the board does not
come up. -/
theorem startAttached_of_stopped (h : ¬ g.isStarted) :
    startAttached g =
      match DialogueM.bringUp g.board.radio1First g.rxChannels ⟨g.newController, g.link⟩ with
      | .ok _ d =>
        .ok () { g with session := some d.controller, link := d.link.note .sessionStarted }
      | .error e d => .error e { g with link := d.link.close } := by
  rw [startAttached, bind_of_ok (ensureStopped_of_stopped h), get_bind]
  rcases DialogueM.bringUp g.board.radio1First g.rxChannels ⟨g.newController, g.link⟩ with
    ⟨_, d⟩ | ⟨e, d⟩
  · rfl
  · rfl

end GatewayM

/-! ### A board in good order -/

namespace Gateway

/-- The version field of a board with the firmware that the library speaks to. -/
def sampleVersion : Bytes := [0x56, 0x30, 0x31, 0x2E, 0x30, 0x30, 0x2E, 0x30, 0x31]

/-- How such a board with that many receive radios identifies itself. -/
def sampleIdentity (rxRadios : UInt8) : Identity where
  uniqueId := (1, 0xAA, 2)
  version := Identity.versionText sampleVersion
  txRadios := 1
  rxRadios := rxRadios

/-- The reply that says so. -/
def sampleReply (rxRadios : UInt8) : Bytes :=
  [0, 0, 23, 0x40, 0, 0, 0, 1, 0, 0, 0, 0xAA, 0, 0, 0, 2] ++ sampleVersion ++ [1, rxRadios]

/-- Its replies to the other requests of a session that opens. -/
def sampleReplies : Bytes :=
  [0, 0, 1, 0x47, 0] ++ [0, 0, 1, 0x47, 0] ++ ([0, 0, 27, 0x43] ++ List.replicate 27 0) ++
    [0, 0, 1, 0x41, 0] ++ [0, 0, 1, 0x41, 0] ++ [0, 0, 1, 0x41, 0]

/-- A gateway with such a board, on which the given channels are enabled. -/
def sample (radio1First : Bool) (rxRadios : UInt8) (enabled : List (Fin rxChannelCount)) :
    Gateway where
  board := { radio1First := radio1First }
  rxChannels := Vector.ofFn fun radio ↦
    { enabled := enabled.contains radio, freqHz := 2403000000 + 1000000 * UInt32.ofNat radio }
  link := { incoming := (sampleReply rxRadios).map .byte ++ sampleReplies.map .byte }

/-- The board of the sample says who it is first. -/
theorem reports_sample (radio1First : Bool) (rxRadios : UInt8)
    (enabled : List (Fin rxChannelCount)) :
    (sample radio1First rxRadios enabled).link.Reports (sampleIdentity rxRadios) := by
  refine ⟨[], sampleReply rxRadios, sampleReplies.map .byte, ⟨⟨0, 23, 0x40⟩, _⟩,
    List.forall_mem_nil _, ⟨⟨0, 23, 0x40⟩, _, rfl, rfl⟩, rfl, rfl, rfl⟩

/-- What a gateway has sent when it starts well. -/
def sentAtStart (g : Gateway) : Option Bytes :=
  match GatewayM.startAttached g with
  | .ok _ g' => some g'.link.sent
  | .error _ _ => none

/-- Bytes that are sent at a start are sent by one that succeeds. -/
theorem exists_of_sentAtStart {g : Gateway} {bytes : Bytes} (h : g.sentAtStart = some bytes) :
    ∃ g', GatewayM.startAttached g = .ok () g' ∧ g'.link.sent = bytes := by
  unfold sentAtStart at h
  split at h
  · rename_i g' hstart
    exact ⟨g', hstart, Option.some.inj h⟩
  · cases h

end Gateway

end LoraConcentrator
