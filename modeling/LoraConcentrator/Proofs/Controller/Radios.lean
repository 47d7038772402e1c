import LoraConcentrator.Proofs.Controller.Alignment
import LoraConcentrator.Proofs.Controller.Writing
import LoraConcentrator.Proofs.Wire.ReplyLayout

/-!
# The numbers of radios a controller knows

A controller knows no radio when it is new. It learns their numbers from the reply to a `ping`
(`DialogueM.Learned`) and from nothing else: every other operation, and every operation that fails,
leaves them as they are (`Controller.sameRadios_of_step`). So at any time they are the numbers that
the last answered `ping` brought, or zero (`Controller.run_radios`).

Three operations look at them. Two are refused when the radio they need is not known, and otherwise
write their request; the third reads the counters of as many radios as are known, of which there are
never more than a board has (`DeviceStatus.length_counters`). Main statement: `run_learnsRadios`.
-/

namespace LoraConcentrator

open BigEndian Link Program

/-! ### Numbers of radios in replies -/

namespace DeviceStatus

/-- A status comes with the counters of as many radios as are known and a board can have. -/
theorem length_counters {rxRadios : UInt8} {frame : Frame} {status : DeviceStatus}
    (h : ofFrame rxRadios frame = .ok status) :
    status.counters.length = min rxRadios.toNat rxChannelCount :=
  ((readsLayout rxRadios).of_ok frame status h).length_counters

end DeviceStatus

/-! ### Learning -/

namespace DialogueM

variable {d d' : Dialogue}

/-- A `ping` was answered: one request was written and one frame read, and of the radios the
controller knows since what the payload of this frame says. -/
structure Learned (ack : Frame) (d d' : Dialogue) : Prop where
  exchanged : ∃ written reply, Request.frame d.controller.ids.next.1 .ping = .ok written ∧
    Frame.parse reply = .ok ack ∧ FrameWise [written] [reply] d.link d'.link
  tag_eq : ack.header.tag = ReplyCode.ping.code
  tx_eq : ack.payload[21]? = some d'.controller.txRadios
  rx_eq : ack.payload[22]? = some d'.controller.rxRadios

/-- A device that says who it is tells its numbers of radios. -/
theorem learned_of_ping {identity : Identity} (h : ping d = .ok identity d') :
    ∃ ack, Learned ack d d' := by
  obtain ⟨identity', d₁, hask, h⟩ := bind_eq_ok_iff.1 h
  obtain ⟨written, reply, ack, hx, hid⟩ := ask_ok hask
  obtain ⟨_, d₂, hmodify, h⟩ := bind_eq_ok_iff.1 h
  obtain ⟨_, d₃, hnote, h⟩ := bind_eq_ok_iff.1 h
  obtain ⟨rfl, rfl⟩ := pure_eq_ok_iff.1 h
  obtain rfl := note_eq_ok_iff.1 hnote
  cases hmodify
  obtain ⟨htag, hle, -⟩ := (Identity.readsLayout.exists_ok_iff ack).1 ⟨identity, hid⟩
  have hlaid := Identity.readsLayout.of_ok ack identity hid
  have hnoted := FrameWise.of_unmoved ((Moved.refl d₁.link).note (.identified identity))
  refine ⟨ack, ⟨written, reply, hx.frame_eq, hx.parse_eq, hx.frameWise.trans hnoted⟩, htag, ?_, ?_⟩
  · rw [getElem?_eq_byteAt (Nat.le_of_succ_le hle)]
    exact congrArg some hlaid.txRadios_eq.symm
  · rw [getElem?_eq_byteAt hle]
    exact congrArg some hlaid.rxRadios_eq.symm

end DialogueM

namespace Controller

open DialogueM

variable {d d' : Dialogue}

/-- No `ping` of a run was answered: none of its outcomes is an identity. -/
def NoneAnswered (operations : List Operation) (d : Dialogue) : Prop :=
  ∀ identity, .ok (.identity identity) ∉ (run operations d).1

/-- Only a `ping` gives an identity. -/
theorem eq_ping_of_step {operation : Operation} {identity : Identity}
    (h : step operation d = (.ok (.identity identity), d')) : operation = .ping := by
  cases operation with
  | ping => rfl
  | _ =>
    obtain ⟨_, -, hanswer⟩ := map_eq_ok_iff.1 (step_eq_ok_iff.1 h)
    cases hanswer

/-- Only a `ping` that is answered changes the numbers of radios. -/
theorem sameRadios_of_step {operation : Operation} {outcome : Except Error Answer}
    (h : step operation d = (outcome, d'))
    (hnone : ∀ identity, outcome ≠ .ok (.identity identity)) : SameRadios d d' := by
  rcases outcome with e | answer
  · exact sameRadios_of_run_error (step_eq_error_iff.1 h)
  have hrun := step_eq_ok_iff.1 h
  by_cases hping : operation = .ping
  · subst hping
    obtain ⟨identity, -, rfl⟩ := map_eq_ok_iff.1 hrun
    exact absurd rfl (hnone identity)
  by_cases hreceive : ∃ limit, operation = .receive limit
  · obtain ⟨limit, rfl⟩ := hreceive
    exact ((keeps_sameRadios_receive limit).map _).of_ok hrun
  · exact (kept_sameRadios.run hping (not_exists.1 hreceive)).of_ok hrun

/-- The numbers of radios after a run are those that the last answered `ping` of it brought, or else
those before it. By induction on the run, whose rest brought other numbers or none. -/
theorem run_radios (operations : List Operation) (d : Dialogue) :
    (NoneAnswered operations d ∧ SameRadios d (run operations d).2) ∨
      ∃ before since identity ack asked, operations = before ++ .ping :: since ∧
        step .ping (run before d).2 = (.ok (.identity identity), asked) ∧
          Learned ack (run before d).2 asked ∧ NoneAnswered since asked ∧
            SameRadios asked (run operations d).2 := by
  induction operations generalizing d with
  | nil => exact .inl ⟨fun _ ↦ List.not_mem_nil, Std.Refl.refl _⟩
  | cons operation operations ih =>
    rcases hstep : step operation d with ⟨outcome, d₁⟩
    have hrun : run (operation :: operations) d =
        (outcome :: (run operations d₁).1, (run operations d₁).2) := by rw [run_cons, hstep]
    rw [NoneAnswered, hrun]
    rcases ih d₁ with ⟨hnone, hsame⟩ |
      ⟨before, since, identity, ack, asked, rfl, hping, hlearned, hnone, hsame⟩
    · by_cases hanswered : ∃ identity, outcome = .ok (.identity identity)
      · -- the first operation is the last `ping` that is answered
        obtain ⟨identity, rfl⟩ := hanswered
        obtain rfl := eq_ping_of_step hstep
        obtain ⟨_, hping, hanswer⟩ := map_eq_ok_iff.1 (step_eq_ok_iff.1 hstep)
        obtain ⟨ack, hlearned⟩ := learned_of_ping hping
        exact .inr ⟨[], operations, identity, ack, d₁, rfl, hstep, hlearned, hnone, hsame⟩
      · have hfirst := sameRadios_of_step hstep (not_exists.1 hanswered)
        refine .inl ⟨fun identity hmem ↦ ?_, IsTrans.trans _ _ _ hfirst hsame⟩
        rcases List.mem_cons.1 hmem with hhead | hrest
        · exact hanswered ⟨identity, hhead.symm⟩
        · exact hnone identity hrest
    · have hbefore : (run (operation :: before) d).2 = (run before d₁).2 := by rw [run_cons, hstep]
      rw [← hbefore] at hping hlearned
      exact .inr ⟨operation :: before, since, identity, ack, asked, rfl, hping, hlearned, hnone,
        hsame⟩

/-- A status that was read has the counters of as many radios as are known and a board can have. -/
theorem length_counters_of_step {status : DeviceStatus}
    (h : step .status d = (.ok (.status status), d')) :
    status.counters.length = min d.controller.rxRadios.toNat rxChannelCount := by
  obtain ⟨status', hrun, hanswer⟩ := map_eq_ok_iff.1 (step_eq_ok_iff.1 h)
  cases hanswer
  rw [DialogueM.status, get_bind] at hrun
  obtain ⟨status', d₁, hask, hrest⟩ := bind_eq_ok_iff.1 hrun
  obtain ⟨_, _, -, hpure⟩ := bind_eq_ok_iff.1 hrest
  obtain ⟨rfl, -⟩ := pure_eq_ok_iff.1 hpure
  obtain ⟨_, _, frame, -, hdecode⟩ := ask_ok hask
  exact DeviceStatus.length_counters hdecode

/-- **The numbers of radios are those of the last answered `ping`**, and zero before the first one:
they are read off its reply, and no other operation and no failing one changes them. So at any time
of any run a radio is configured exactly when it is one of those, a packet is handed over exactly
when there is one of them, and a status has the counters of them all, or of three. Where nothing is
refused the request is begun if the link takes a first byte, and written in full if the link takes
it all. -/
theorem run_learnsRadios (operations : List Operation) (ids : IdSource) (checksIds : Bool)
    (replyTimeout : Duration) (link : Link) :
    let new : Dialogue := ⟨{ ids, checksIds, replyTimeout }, link⟩
    let after := (run operations new).2
    ((NoneAnswered operations new ∧
        after.controller.rxRadios = 0 ∧ after.controller.txRadios = 0) ∨
      ∃ before since identity ack asked, operations = before ++ .ping :: since ∧
        step .ping (run before new).2 = (.ok (.identity identity), asked) ∧
          Learned ack (run before new).2 asked ∧ NoneAnswered since asked ∧
            ack.payload[21]? = some after.controller.txRadios ∧
              ack.payload[22]? = some after.controller.rxRadios) ∧
    (∀ operation, operation ≠ .ping ∨ (∃ e, (step operation after).1 = .error e) →
      SameRadios after (step operation after).2) ∧
    (∀ radio channel,
      (after.controller.rxRadios ≤ radio → step (.configRx radio channel) after =
        (.error (.invalidChannel radio after.controller.rxRadios), after)) ∧
      (after.link.Takes 1 →
        (Began (.configRx (channel.setup radio)) after (step (.configRx radio channel) after).2 ↔
          radio < after.controller.rxRadios)) ∧
      (TakesRequest (.configRx (channel.setup radio)) after →
        (Wrote (.configRx (channel.setup radio)) after (step (.configRx radio channel) after).2 ↔
          radio < after.controller.rxRadios))) ∧
    (∀ packet,
      (after.controller.rxRadios < 1 →
        step (.prepareTx packet) after = (.error .noRxRadio, after)) ∧
      (after.link.Takes 1 →
        (Began (.prepareTx packet.setup) after (step (.prepareTx packet) after).2 ↔
          1 ≤ after.controller.rxRadios)) ∧
      (TakesRequest (.prepareTx packet.setup) after →
        (Wrote (.prepareTx packet.setup) after (step (.prepareTx packet) after).2 ↔
          1 ≤ after.controller.rxRadios))) ∧
    ((∃ status, (step .status after).1 = .ok (.status status) ∧
        status.counters.length = min after.controller.rxRadios.toNat 3) ∨
      ∃ e, (step .status after).1 = .error e) := by
  intro new after
  refine ⟨?_, fun operation h ↦ ?_, fun radio channel ↦ ?_, fun packet ↦ ?_, ?_⟩
  · rcases run_radios operations new with ⟨hnone, hsame⟩ |
      ⟨before, since, identity, ack, asked, hsplit, hping, hlearned, hnone, hsame⟩
    · exact .inl ⟨hnone, hsame.rx_eq, hsame.tx_eq⟩
    · refine .inr ⟨before, since, identity, ack, asked, hsplit, hping, hlearned, hnone, ?_, ?_⟩
      · rw [hlearned.tx_eq, hsame.tx_eq]
      · rw [hlearned.rx_eq, hsame.rx_eq]
  · refine sameRadios_of_step (Prod.eta _).symm fun identity hanswer ↦ ?_
    rcases h with hother | ⟨e, herror⟩
    · exact hother (eq_ping_of_step (Prod.ext hanswer rfl))
    · cases hanswer.symm.trans herror
  · exact ⟨fun h ↦ step_configRx_of_le h channel, began_configRx_iff radio channel,
      wrote_configRx_iff radio channel⟩
  · exact ⟨fun h ↦ step_prepareTx_of_lt h packet, began_prepareTx_iff packet,
      wrote_prepareTx_iff packet⟩
  · rcases hstep : step .status after with ⟨e | answer, d'⟩
    · exact .inr ⟨e, rfl⟩
    · obtain ⟨status, -, rfl⟩ := map_eq_ok_iff.1 (step_eq_ok_iff.1 hstep)
      exact .inl ⟨status, rfl, length_counters_of_step hstep⟩

/-- A device that says that it has two receive radios and one transmit radio, on a link that accepts
three bytes at a time. -/
def twoRadios : Link where
  incoming := ([0, 0, 23, 0x40] ++ List.replicate 21 0 ++ [1, 2] : Bytes).map .byte
  writeLimit := fun _ ↦ 3

/-- Of two receive radios the second one is configured and a third one is not. -/
theorem run_learnsRadios_twoRadios :
    let after := (run [.ping] ⟨{}, twoRadios⟩).2
    after.link.Undisturbed ∧ ¬ after.link.isGone ∧ after.controller.rxRadios = 2 ∧
      Began (.configRx (RxChannel.setup {} 1)) after (step (.configRx 1 {}) after).2 ∧
        Wrote (.configRx (RxChannel.setup {} 1)) after (step (.configRx 1 {}) after).2 ∧
          step (.configRx 2 {}) after = (.error (.invalidChannel 2 2), after) ∧
            Wrote (.prepareTx (TxPacket.setup {})) after (step (.prepareTx {}) after).2 := by
  intro after
  have hundisturbed : after.link.Undisturbed := undisturbed_of_noFaults (by decide +kernel)
  have hgone : ¬ after.link.isGone := by decide +kernel
  have hradios : after.controller.rxRadios = 2 := by decide +kernel
  obtain ⟨-, -, hconfigRx, hprepareTx, -⟩ :=
    run_learnsRadios [.ping] .initial false (.ofMillis 10000) twoRadios
  have htakes (request : Request) : TakesRequest request after :=
    fun bytes _ ↦ hundisturbed.takes hgone bytes.length
  have hknown : 1 < after.controller.rxRadios := by
    rw [hradios]
    decide
  have hany : 1 ≤ after.controller.rxRadios := by
    rw [hradios]
    decide
  obtain ⟨-, hbegan, hwrote⟩ := hconfigRx 1 {}
  refine ⟨hundisturbed, hgone, hradios, (hbegan (hundisturbed.takes hgone 1)).2 hknown,
    (hwrote (htakes _)).2 hknown, ?_, ((hprepareTx {}).2.2 (htakes _)).2 hany⟩
  have hrefused := (hconfigRx 2 {}).1 (UInt8.le_of_eq hradios)
  rwa [show (run [.ping] ⟨{}, twoRadios⟩).2.controller.rxRadios = 2 from hradios] at hrefused

end Controller

end LoraConcentrator
