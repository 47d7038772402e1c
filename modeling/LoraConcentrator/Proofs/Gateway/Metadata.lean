import LoraConcentrator.Proofs.Controller.Alignment
import LoraConcentrator.Proofs.Gateway.Sessions
import Mathlib.Data.List.Forall2

/-!
# What a received packet says of its radio

The device tells the channel that a packet came through and what was measured; what its radio
listens to is known to the gateway. A gateway hands out the packets that its controller decoded, in
order, each completed with what its channel is set to (`RxPacket.Joined`), and after them asks for
the state of the device once (`GatewayM.receive_ok`).

What a channel is set to when a packet is received is what it was set to when the session was
opened, as no operation in between can change it. So the radio was told just that, if it was
configured at all. Main statement: `Gateway.run_receivesMetadata`.
-/

namespace LoraConcentrator

open Link Program

/-! ### Completed packets -/

/-- A packet as it was decoded and as it is handed out, by a gateway on whose channels a session was
opened by some requests: what was measured stays, a packet of a channel that exists says what the
channel is set to and its radio was told, and a packet of another channel stays as it is. -/
structure RxPacket.Joined (channels : RxChannels) (requests : List Request)
    (decoded packet : RxPacket) : Prop where
  channel_eq : packet.channel = decoded.channel
  countUs_eq : packet.countUs = decoded.countUs
  offsetHz_eq : packet.offsetHz = decoded.offsetHz
  snr_eq : packet.snr = decoded.snr
  payload_eq : packet.payload = decoded.payload
  known : ∀ radio : Fin rxChannelCount, decoded.channel.toNat = radio →
    packet.freqHz = channels[radio].freqHz ∧ packet.bandwidth = some channels[radio].bandwidth ∧
      packet.spreading = some channels[radio].spreading ∧ packet.status = .good ∧
        packet.modulation = .lora ∧ packet.coding = some .long48 ∧
          packet.rssi = decoded.rssi + channels[radio].rssiOffset
  configured : ∀ setup, .configRx setup ∈ requests → setup.radio = decoded.channel →
    packet.freqHz = setup.freqHz ∧ packet.bandwidth.map Bandwidth.code = some setup.bandwidth ∧
      packet.spreading.map SpreadingFactor.code = some setup.spreading
  unknown : rxChannelCount ≤ decoded.channel.toNat → packet = decoded

namespace RxPacket

variable {channels : RxChannels} {decoded : RxPacket}

/-- A packet from a channel of the gateway is completed by this channel. -/
theorem completed_of_radio {radio : Fin rxChannelCount} (h : decoded.channel.toNat = radio) :
    decoded.completed channels = decoded.completedBy channels[radio] := by
  have hchannel : channels[decoded.channel.toNat]? = some channels[radio] := by
    rw [h]
    exact Vector.getElem?_eq_getElem radio.isLt
  rw [completed, hchannel]

/-- A packet from any other channel is left as it was decoded. -/
theorem completed_of_le (h : rxChannelCount ≤ decoded.channel.toNat) :
    decoded.completed channels = decoded := by
  rw [completed, Vector.getElem?_eq_none h]

/-- Completing a packet joins it with the channel that it came through. -/
theorem joined_completed {requests : List Request}
    (hsetup : ∀ setup, .configRx setup ∈ requests →
      ∃ radio : Fin rxChannelCount, setup = channels[radio].setup (UInt8.ofNat radio)) :
    Joined channels requests decoded (decoded.completed channels) := by
  have hconfigured (setup : RxSetup) (hmem : .configRx setup ∈ requests)
      (hchannel : setup.radio = decoded.channel) : ∃ radio : Fin rxChannelCount,
      setup = channels[radio].setup (UInt8.ofNat radio) ∧ decoded.channel.toNat = radio := by
    obtain ⟨radio, rfl⟩ := hsetup setup hmem
    refine ⟨radio, rfl, ?_⟩
    rw [← hchannel]
    exact Nat.mod_eq_of_lt (Nat.lt_trans radio.isLt (by decide))
  rcases Nat.lt_or_ge decoded.channel.toNat rxChannelCount with hlt | hle
  · obtain ⟨radio, hradio⟩ : ∃ radio : Fin rxChannelCount, decoded.channel.toNat = radio :=
      ⟨⟨decoded.channel.toNat, hlt⟩, rfl⟩
    rw [completed_of_radio hradio]
    refine ⟨rfl, rfl, rfl, rfl, rfl, fun radio' hradio' ↦ ?_, fun setup hmem hchannel ↦ ?_,
      fun hle ↦ absurd hlt (Nat.not_lt_of_le hle)⟩
    · obtain rfl : radio' = radio := Fin.ext (hradio'.symm.trans hradio)
      exact ⟨rfl, rfl, rfl, rfl, rfl, rfl, rfl⟩
    · obtain ⟨radio', rfl, hradio'⟩ := hconfigured setup hmem hchannel
      obtain rfl : radio' = radio := Fin.ext (hradio'.symm.trans hradio)
      exact ⟨rfl, rfl, rfl⟩
  · rw [completed_of_le hle]
    refine ⟨rfl, rfl, rfl, rfl, rfl, fun radio hradio ↦ ?_, fun setup hmem hchannel ↦ ?_,
      fun _ ↦ rfl⟩
    · exact absurd radio.isLt (Nat.not_lt_of_le (hradio ▸ hle))
    · obtain ⟨radio, -, hradio⟩ := hconfigured setup hmem hchannel
      exact absurd radio.isLt (Nat.not_lt_of_le (hradio ▸ hle))

end RxPacket

/-! ### Fetching packets -/

namespace DialogueM

/-- A dialogue asked for messages and decoded the packets of those that the device had announced.
Then it asked for the state of the device, once. -/
structure Fetched (limit : Nat) (decoded : List RxPacket) (d received d' : Dialogue) : Prop where
  receive_eq : receive limit d = .ok decoded received
  moved : ∃ id request ack frame mailbox events, Request.frame id .getRxMessages = .ok request ∧
    Frame.parse ack = .ok frame ∧ Mailbox.ofFrame frame = .ok mailbox ∧
      events.length = mailbox.messages.toNat ∧
        FrameWise [request] (ack :: events) d.link received.link
  asked : ∃ written reply frame, Exchanged .getStatus written reply frame received d'

/-- Reading the state of the device is one exchange. -/
theorem status_ok {status : DeviceStatus} {d d' : Dialogue}
    (h : DialogueM.status d = .ok status d') : ∃ d₁ written reply frame,
      Exchanged .getStatus written reply frame d d₁ ∧ d'.controller = d₁.controller ∧
        SameButNotices d₁.link d'.link := by
  rw [DialogueM.status, get_bind] at h
  obtain ⟨status', d₁, hask, h⟩ := bind_eq_ok_iff.1 h
  obtain ⟨written, reply, frame, hexchanged, -⟩ := ask_ok hask
  obtain ⟨_, _, hnote, h⟩ := bind_eq_ok_iff.1 h
  obtain ⟨rfl, rfl⟩ := pure_eq_ok_iff.1 h
  obtain rfl := note_eq_ok_iff.1 hnote
  exact ⟨d₁, written, reply, frame, hexchanged, rfl, _ :: d₁.link.noticed, rfl⟩

end DialogueM

namespace GatewayM

variable {g g' : Gateway}

/-- What a gateway hands out are the packets that its controller decoded, in order and completed.
Nothing is written or read but what fetched them. -/
theorem receive_ok {limit : Nat} {packets : List RxPacket}
    (h : GatewayM.receive limit g = .ok packets g') :
    ∃ controller decoded received d, g.session = some controller ∧
      DialogueM.Fetched limit decoded ⟨controller, g.link⟩ received d ∧
        packets = decoded.map (·.completed g.rxChannels) ∧
          g'.session = some d.controller ∧ SameButNotices d.link g'.link := by
  obtain ⟨decoded, g₁, hreceived, h⟩ := bind_eq_ok_iff.1 h
  obtain ⟨controller, received, hsession, hreceive, rfl⟩ := inSession_eq_ok_iff.1 hreceived
  obtain ⟨status, g₂, hread, h⟩ := bind_eq_ok_iff.1 h
  obtain ⟨_, d', hsession', hstatus, hg₂⟩ := inSession_eq_ok_iff.1 hread
  cases hsession'
  obtain ⟨d, written, reply, frame, hexchanged, hcontroller, hstatusLink⟩ :=
    DialogueM.status_ok hstatus
  -- what is left only notes
  have hchannels : g₂.rxChannels = g.rxChannels := by rw [hg₂]
  have hcontroller₂ : g₂.session = some d.controller := by rw [hg₂, ← hcontroller]
  have hlink₂ : SameButNotices d.link g₂.link := by
    rw [hg₂]
    exact hstatusLink
  obtain ⟨counted, hcounted, hcounters⟩ := onlyNotes_noteCounters 0 status.counters g₂
  rw [bind_of_ok hcounters, get_bind] at h
  obtain ⟨completed, hcompleted, hcomplete⟩ :=
    onlyNotes_completePackets g₂.rxChannels decoded { g₂ with link := counted }
  cases hcomplete.symm.trans h
  rw [hchannels]
  exact ⟨controller, decoded, received, d, hsession,
    ⟨hreceive, DialogueM.receive_ok hreceive, written, reply, frame, hexchanged⟩, rfl,
    hcontroller₂, IsTrans.trans _ _ _ hlink₂ (IsTrans.trans _ _ _ hcounted hcompleted)⟩

end GatewayM

namespace Gateway

/-- **Received packets say what the radios were told.** A gateway that receives in a run was started
in it. Each packet that it hands out stands for one that its controller decoded, with what its
channel was set to when the session was opened and the radio of the channel was told, if it was told
anything. The device is asked for its state once, after the events. -/
theorem run_receivesMetadata (operations : List Operation) {g g' : Gateway} {limit : Nat}
    {packets : List RxPacket} (hstopped : ¬ g.isStarted)
    (h : step (.receive limit) (run operations g).2 = (.ok (.packets packets), g')) :
    ∃ before opening since, SessionSince operations before opening since g ∧
      ∃ requests, OpenedBy requests (run before g).2 (step opening (run before g).2).2 ∧
        ∃ controller decoded received d, (run operations g).2.session = some controller ∧
          DialogueM.Fetched limit decoded ⟨controller, (run operations g).2.link⟩ received d ∧
          List.Forall₂ (RxPacket.Joined (run before g).2.rxChannels requests) decoded packets ∧
          g'.session = some d.controller ∧ SameButNotices d.link g'.link := by
  obtain ⟨_, hreceive, hpackets⟩ := map_eq_ok_iff.1 (step_eq_ok_iff.1 h)
  cases hpackets
  obtain ⟨controller, decoded, received, d, hcontroller, hfetched, rfl, hcontroller', hlink⟩ :=
    GatewayM.receive_ok hreceive
  have hstarted : (run operations g).2.isStarted := Option.isSome_iff_exists.2 ⟨_, hcontroller⟩
  rcases run_session operations hstarted with hstays | ⟨before, opening, since, hsession⟩
  · exact absurd hstays.isStarted hstopped
  obtain ⟨requests, hopened⟩ := openedBy_of_opens hsession.opens hsession.opened
  refine ⟨before, opening, since, hsession, requests, hopened, controller, decoded, received, d,
    hcontroller, hfetched, ?_, hcontroller', hlink⟩
  -- the channels are what they were when the session was opened
  rw [hsession.sameSettings.rxChannels_eq, List.forall₂_map_right_iff, List.forall₂_same]
  exact fun packet _ ↦ RxPacket.joined_completed hopened.setup_eq

/-- A board that sends one message through channel 1 and one through a channel it does not have, and
then tells its state. -/
def busy : Gateway :=
  { sample true 3 (List.finRange rxChannelCount) with
    link := { incoming := (sampleReply 3 ++ sampleReplies ++ replies).map .byte } }
where
  event (channel : UInt8) : Bytes :=
    [0, 0, 13, 0x50, channel, 0, 0, 0, 1, 0, 0, 0, 0, 5, 0xC0, 1, 0xAA]
  replies : Bytes :=
    [0, 0, 5, 0x45, 2, 0, 26, 0, 0] ++ event 1 ++ event 9 ++
      ([0, 0, 27, 0x43] ++ List.replicate 27 0)
  /-- The message of a channel as it is decoded. -/
  decoded (channel : UInt8) : RxPacket :=
    { channel := channel, countUs := 1, rssi := ⟨0xC2800000⟩, snr := ⟨0x40A00000⟩
      payload := ⟨[0xAA], by decide⟩ }
  /-- The messages as they are handed out. -/
  packets : List RxPacket :=
    [{ decoded 1 with
        freqHz := 2404000000
        bandwidth := some .khz800
        spreading := some .sf12
        status := .good
        coding := some .long48 },
      decoded 9]

/-- The frequency of the first message is that of its channel, and the second says nothing. -/
theorem run_receivesMetadata_busy :
    ¬ busy.isStarted ∧ ∃ g',
      step (.receive 2) (run [.startAttached, .configureTxChannel {}] busy).2 =
        (.ok (.packets busy.packets), g') ∧
      ∃ before opening since,
        SessionSince [.startAttached, .configureTxChannel {}] before opening since busy ∧
        ∃ requests, OpenedBy requests (run before busy).2 (step opening (run before busy).2).2 ∧
          ∃ decoded, List.Forall₂ (RxPacket.Joined (run before busy).2.rxChannels requests) decoded
            busy.packets := by
  have hstopped : ¬ busy.isStarted := Bool.false_ne_true
  have houtcome : (step (.receive 2) (run [.startAttached, .configureTxChannel {}] busy).2).1 =
      .ok (.packets busy.packets) := by
    decide +kernel
  obtain ⟨before, opening, since, hsession, requests, hopened, _, decoded, _, _, -, -, hjoined,
    -⟩ := run_receivesMetadata _ hstopped (Prod.ext houtcome rfl)
  exact ⟨hstopped, _, Prod.ext houtcome rfl, before, opening, since, hsession, requests, hopened,
    decoded, hjoined⟩

end Gateway

end LoraConcentrator
