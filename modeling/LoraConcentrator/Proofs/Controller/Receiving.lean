import LoraConcentrator.Proofs.Controller.Alignment
import LoraConcentrator.Proofs.Controller.Lockstep
import LoraConcentrator.Proofs.Link.Notices
import Mathlib.Data.List.Forall2

/-!
# What is received and what is dropped

A `receive` reads every event that its reply announced, and keeps as many as it was asked for. The
packets are the first events taken apart, in order; for each of the others there is a warning, and
one more if the device has lost messages on its own (`DialogueM.drain_ok`).

How many are kept has no other effect. Two runs of the reader of events that keep different numbers
read the same frames from then on, since what is dropped shows in the notices alone
(`DialogueM.drain_of_le`). Main result: `DialogueM.receive_accounts`.
-/

namespace LoraConcentrator.DialogueM

open Link Program

variable {d d' : Dialogue}

/-! ### Warnings of an exchange -/

/-- Reading an event that comes warns of nothing. -/
theorem warnings_receiveFrame {bs : Bytes} (h : receiveFrame d = .ok bs d') :
    d'.link.warnings = d.link.warnings := by
  simp only [receiveFrame, bind_eq_ok_iff, get_eq_ok_iff, onLink_eq_ok_iff] at h
  obtain ⟨_, _, ⟨rfl, rfl⟩, link, hread, rfl⟩ := h
  exact LinkM.warnings_receiveFrame hread

/-- Nobody is warned by an exchange that goes well. -/
theorem warnings_ask {α : Type} {request : Request} {decode : Frame → Except Error α} {a : α}
    (h : ask request decode d = .ok a d') : d'.link.warnings = d.link.warnings := by
  simp only [ask, exchange, bind_eq_ok_iff, drawId_eq_ok_iff, ofExcept_eq_ok_iff, onLink_eq_ok_iff,
    note_eq_ok_iff, get_eq_ok_iff] at h
  obtain ⟨frame, _, ⟨_, _, ⟨rfl, rfl⟩, payload, _, ⟨-, rfl⟩, _, _, ⟨link₁, hsend, rfl⟩, reply, d₁,
    hreply, frame', _, ⟨-, rfl⟩, _, _, rfl, _, _, ⟨rfl, rfl⟩, h⟩, -, rfl⟩ := h
  split at h
  · simp only [bind_eq_ok_iff, throw_ne_ok, false_and, exists_false] at h
  obtain ⟨-, rfl⟩ := pure_eq_ok_iff.1 h
  rw [warnings_note_of_ne rfl, warnings_receiveFrame hreply, LinkM.warnings_sendRequest hsend]

/-! ### Events one by one -/

/-- The event carries the packet. -/
def Carries (event : Bytes) (packet : RxPacket) : Prop :=
  ∃ frame, Frame.parse event = .ok frame ∧ RxPacket.ofFrame frame = .ok packet

/-- The notices of the events that are dropped, of `left` events from the given index on. -/
def droppedFrom (limit index left : Nat) : List Notice :=
  ((List.range' index left).drop (limit - index)).map .messageDropped

theorem droppedFrom_zero (limit index : Nat) : droppedFrom limit index 0 = [] := by
  rw [droppedFrom, List.range'_zero, List.drop_nil, List.map_nil]

/-- An event beyond the limit is dropped. -/
theorem droppedFrom_of_le {limit index : Nat} (h : limit ≤ index) (left : Nat) :
    droppedFrom limit index (left + 1) =
      .messageDropped index :: droppedFrom limit (index + 1) left := by
  have hnow : limit - index = 0 := Nat.sub_eq_zero_of_le h
  have hnext : limit - (index + 1) = 0 := Nat.sub_eq_zero_of_le (Nat.le_succ_of_le h)
  rw [droppedFrom, droppedFrom, hnow, hnext]
  rfl

/-- An event within the limit is not dropped. -/
theorem droppedFrom_of_lt {limit index : Nat} (h : index < limit) (left : Nat) :
    droppedFrom limit index (left + 1) = droppedFrom limit (index + 1) left := by
  have hroom : limit - index = limit - (index + 1) + 1 := by omega
  rw [droppedFrom, droppedFrom, hroom, List.range'_succ, List.drop_succ_cons]

/-- An event beyond the limit is read and dropped. -/
theorem drain_succ_of_le {limit index left : Nat} (h : limit ≤ index) :
    drain limit index (left + 1) = (do
      let _ ← receiveFrame
      note (.messageDropped index)
      drain limit (index + 1) left) := by
  rw [drain]
  simp only [if_pos h]

/-- An event within the limit is read and taken apart. -/
theorem drain_succ_of_lt {limit index left : Nat} (h : index < limit) :
    drain limit index (left + 1) = (do
      let bytes ← receiveFrame
      let frame ← ofExcept (Frame.parse bytes)
      let packet ← ofExcept (RxPacket.ofFrame frame)
      let packets ← drain limit (index + 1) left
      return packet :: packets) := by
  rw [drain]
  simp only [if_neg (Nat.not_le_of_lt h)]

/-- What reading an event within the limit comes to, when all goes well. -/
theorem drain_succ_ok_of_lt {limit index left : Nat} {packets : List RxPacket} (h : index < limit) :
    drain limit index (left + 1) d = .ok packets d' ↔
      ∃ event d₁ packet rest, receiveFrame d = .ok event d₁ ∧ Carries event packet ∧
        drain limit (index + 1) left d₁ = .ok rest d' ∧ packets = packet :: rest := by
  rw [drain_succ_of_lt h]
  simp only [bind_eq_ok_iff, ofExcept_eq_ok_iff, pure_eq_ok_iff]
  constructor
  · rintro ⟨event, d₁, hread, frame, _, ⟨hparse, rfl⟩, packet, _, ⟨hpacket, rfl⟩, rest, _, hrest,
      rfl, rfl⟩
    exact ⟨event, _, packet, rest, hread, ⟨frame, hparse, hpacket⟩, hrest, rfl⟩
  · rintro ⟨event, d₁, packet, rest, hread, ⟨frame, hparse, hpacket⟩, hrest, rfl⟩
    exact ⟨event, d₁, hread, frame, d₁, ⟨hparse, rfl⟩, packet, d₁, ⟨hpacket, rfl⟩, rest, d', hrest,
      rfl, rfl⟩

/-- What reading an event beyond the limit comes to, when all goes well. -/
theorem drain_succ_ok_of_le {limit index left : Nat} {packets : List RxPacket} (h : limit ≤ index) :
    drain limit index (left + 1) d = .ok packets d' ↔
      ∃ event d₁, receiveFrame d = .ok event d₁ ∧
        drain limit (index + 1) left { d₁ with link := d₁.link.note (.messageDropped index) } =
          .ok packets d' := by
  rw [drain_succ_of_le h]
  simp only [bind_eq_ok_iff, note_eq_ok_iff]
  constructor
  · rintro ⟨event, d₁, hread, _, _, rfl, hrest⟩
    exact ⟨event, d₁, hread, hrest⟩
  · rintro ⟨event, d₁, hread, hrest⟩
    exact ⟨event, d₁, hread, (), _, rfl, hrest⟩

/-- The reader of events takes the events within the limit apart, in order, and warns of each of the
others. By induction on the events that are left. -/
theorem drain_ok {limit index left : Nat} {packets : List RxPacket}
    (h : drain limit index left d = .ok packets d') :
    ∃ events, events.length = left ∧ FrameWise [] events d.link d'.link ∧
      List.Forall₂ Carries (events.take (limit - index)) packets ∧
        d'.link.warnings = d.link.warnings ++ droppedFrom limit index left := by
  induction left generalizing index d packets with
  | zero =>
    obtain ⟨rfl, rfl⟩ := pure_eq_ok_iff.1 h
    refine ⟨[], rfl, .of_unmoved (.refl _), ?_, ?_⟩
    · rw [List.take_nil]
      exact .nil
    · rw [droppedFrom_zero, List.append_nil]
  | succ left ih =>
    rcases Nat.lt_or_ge index limit with hlt | hle
    · obtain ⟨event, d₁, packet, rest, hread, hevent, hrest, rfl⟩ := (drain_succ_ok_of_lt hlt).1 h
      obtain ⟨events, hlength, hmoved, hcarries, hwarnings⟩ := ih hrest
      obtain ⟨-, hframe, waits, hwaits, hm⟩ := receiveFrame_ok hread
      have hroom : limit - index = limit - (index + 1) + 1 := by omega
      refine ⟨event :: events, congrArg (· + 1) hlength,
        (FrameWise.of_read hframe hwaits hm).trans hmoved, ?_, ?_⟩
      · rw [hroom, List.take_succ_cons]
        exact .cons hevent hcarries
      · rw [hwarnings, warnings_receiveFrame hread, droppedFrom_of_lt hlt]
    · obtain ⟨event, d₁, hread, hrest⟩ := (drain_succ_ok_of_le hle).1 h
      obtain ⟨events, hlength, hmoved, hcarries, hwarnings⟩ := ih hrest
      obtain ⟨-, hframe, waits, hwaits, hm⟩ := receiveFrame_ok hread
      have hnone : limit - index = limit - (index + 1) := by omega
      refine ⟨event :: events, congrArg (· + 1) hlength,
        (FrameWise.of_read hframe hwaits (hm.note _)).trans hmoved, ?_, ?_⟩
      · have hzero : limit - (index + 1) = 0 := by omega
        rw [hnone, hzero, List.take_zero]
        rwa [hzero, List.take_zero] at hcarries
      · rw [hwarnings, warnings_note_of_warn rfl, warnings_receiveFrame hread,
          droppedFrom_of_le hle, List.append_assoc, List.singleton_append]

/-- The same of all the messages in a mailbox. -/
theorem collect_ok {limit : Nat} {mailbox : Mailbox} {packets : List RxPacket}
    (h : collect limit mailbox d = .ok packets d') :
    ∃ events, events.length = mailbox.messages.toNat ∧ FrameWise [] events d.link d'.link ∧
      List.Forall₂ Carries (events.take limit) packets ∧
        d'.link.warnings = d.link.warnings ++ droppedFrom limit 0 mailbox.messages.toNat := by
  unfold collect at h
  split at h
  · rename_i hnone
    obtain ⟨rfl, rfl⟩ := pure_eq_ok_iff.1 h
    rw [hnone]
    refine ⟨[], rfl, .of_unmoved (.refl _), ?_, ?_⟩
    · rw [List.take_nil]
      exact .nil
    · show _ = _ ++ droppedFrom limit 0 0
      rw [droppedFrom_zero, List.append_nil]
  · simp only [bind_eq_ok_iff, note_eq_ok_iff] at h
    obtain ⟨_, _, rfl, packets', d₁, hdrain, h⟩ := h
    obtain ⟨events, hlength, hmoved, hcarries, hwarnings⟩ := drain_ok hdrain
    have hstart : FrameWise [] events d.link d₁.link :=
      (FrameWise.of_unmoved ((Moved.refl d.link).note _)).trans hmoved
    rw [warnings_note_of_ne rfl] at hwarnings
    split at h
    · simp only [bind_eq_ok_iff, note_eq_ok_iff, pure_eq_ok_iff] at h
      obtain ⟨_, _, rfl, rfl, rfl⟩ := h
      have hend : FrameWise [] [] d₁.link (d₁.link.note .messagesPending) :=
        .of_unmoved ((Moved.refl _).note _)
      have hframes := hstart.trans hend
      rw [List.append_nil, List.append_nil] at hframes
      exact ⟨events, hlength, hframes, hcarries, (warnings_note_of_ne rfl _).trans hwarnings⟩
    · obtain ⟨rfl, rfl⟩ := pure_eq_ok_iff.1 h
      exact ⟨events, hlength, hstart, hcarries, hwarnings⟩

/-! ### Keeping fewer packets -/

section Fewer

variable {e : Dialogue}

/-- What is noted on one side alone does not show. -/
theorem over_note_right (h : Dialogue.Over SameButNotices d e) (notice : Notice) :
    Dialogue.Over SameButNotices d { e with link := e.link.note notice } := by
  obtain ⟨_, ⟨noticed, rfl⟩, rfl⟩ := h
  exact ⟨_, ⟨notice :: noticed, rfl⟩, rfl⟩

theorem over_note_left (h : Dialogue.Over SameButNotices d e) (notice : Notice) :
    Dialogue.Over SameButNotices { d with link := d.link.note notice } e := by
  obtain ⟨_, ⟨noticed, rfl⟩, rfl⟩ := h
  exact ⟨_, ⟨noticed, rfl⟩, rfl⟩

variable {limit limit' : Nat}

/-- A reader of events that keeps fewer of them reads the same. By induction on the events that are
left: an event is kept by both readers, dropped by both, or kept by the one and dropped by the
other. -/
theorem drain_of_le {index left : Nat} {packets : List RxPacket} (hle : limit' ≤ limit)
    (hd : Dialogue.Over SameButNotices d e) (h : drain limit index left d = .ok packets d') :
    ∃ e', drain limit' index left e = .ok (packets.take (limit' - index)) e' ∧
      Dialogue.Over SameButNotices d' e' := by
  induction left generalizing index d e packets with
  | zero =>
    obtain ⟨rfl, rfl⟩ := pure_eq_ok_iff.1 h
    rw [List.take_nil]
    exact ⟨e, rfl, hd⟩
  | succ left ih =>
    have hreader := lockstep_receiveFrame hiddenFromReading_sameButNotices hd
    rcases Nat.lt_or_ge index limit with hlt | hout
    · obtain ⟨event, d₁, packet, rest, hread, hevent, hrest, rfl⟩ := (drain_succ_ok_of_lt hlt).1 h
      obtain ⟨e₁, hread', hd₁⟩ := hreader.exists_of_ok hread
      rcases Nat.lt_or_ge index limit' with hlt' | hout'
      · obtain ⟨e', hrest', hd'⟩ := ih hd₁ hrest
        have hroom : limit' - index = limit' - (index + 1) + 1 := by omega
        refine ⟨e', (drain_succ_ok_of_lt hlt').2 ⟨event, e₁, packet, _, hread', hevent, hrest', ?_⟩,
          hd'⟩
        rw [hroom, List.take_succ_cons]
      · obtain ⟨e', hrest', hd'⟩ := ih (over_note_right hd₁ (.messageDropped index)) hrest
        have hnow : limit' - index = 0 := by omega
        have hnext : limit' - (index + 1) = 0 := by omega
        rw [hnext, List.take_zero] at hrest'
        rw [hnow, List.take_zero]
        exact ⟨e', (drain_succ_ok_of_le hout').2 ⟨event, e₁, hread', hrest'⟩, hd'⟩
    · have hout' : limit' ≤ index := Nat.le_trans hle hout
      obtain ⟨event, d₁, hread, hrest⟩ := (drain_succ_ok_of_le hout).1 h
      obtain ⟨e₁, hread', hd₁⟩ := hreader.exists_of_ok hread
      obtain ⟨e', hrest', hd'⟩ :=
        ih (over_note_left (over_note_right hd₁ (.messageDropped index)) _) hrest
      have hsame : limit' - (index + 1) = limit' - index := by omega
      rw [hsame] at hrest'
      exact ⟨e', (drain_succ_ok_of_le hout').2 ⟨event, e₁, hread', hrest'⟩, hd'⟩

/-- With a lower limit the first packets are kept. -/
theorem collect_of_le {mailbox : Mailbox} {packets : List RxPacket} (hle : limit' ≤ limit)
    (hd : Dialogue.Over SameButNotices d e) (h : collect limit mailbox d = .ok packets d') :
    ∃ e', collect limit' mailbox e = .ok (packets.take limit') e' ∧
      Dialogue.Over SameButNotices d' e' := by
  unfold collect at h ⊢
  split at h
  · rename_i hnone
    obtain ⟨rfl, rfl⟩ := pure_eq_ok_iff.1 h
    rw [if_pos hnone, List.take_nil]
    exact ⟨e, rfl, hd⟩
  · rename_i hsome
    simp only [bind_eq_ok_iff, note_eq_ok_iff] at h
    obtain ⟨_, _, rfl, packets', d₁, hdrain, h⟩ := h
    obtain ⟨e₁, hdrain', hd₁⟩ := drain_of_le hle (over_note_left (over_note_right hd
      (.messagesReceived mailbox.messages mailbox.byteTotal)) _) hdrain
    rw [if_neg hsome]
    have hprogram (finish : List RxPacket → DialogueM (List RxPacket)) :
        (do
          note (.messagesReceived mailbox.messages mailbox.byteTotal)
          let packets ← drain limit' 0 mailbox.messages.toNat
          finish packets) e = finish (packets'.take limit') e₁ :=
      bind_of_ok hdrain'
    rw [hprogram]
    split at h
    · rename_i hpending
      simp only [bind_eq_ok_iff, note_eq_ok_iff, pure_eq_ok_iff] at h
      obtain ⟨_, _, rfl, rfl, rfl⟩ := h
      rw [if_pos hpending]
      exact ⟨_, rfl, over_note_left (over_note_right hd₁ _) _⟩
    · rename_i hpending
      obtain ⟨rfl, rfl⟩ := pure_eq_ok_iff.1 h
      rw [if_neg hpending]
      exact ⟨e₁, rfl, hd₁⟩

end Fewer

/-! ### Receiving -/

/-- The warning of messages that the device lost, if it lost any. -/
def lostWarnings (mailbox : Mailbox) : List Notice :=
  if 0 < mailbox.lost then [.messagesLost mailbox.lost] else []

/-- What a `receive` did that kept at most `limit` packets: after the reply with that mailbox it
read the announced events, of which the first are the packets, in order. It warned once if messages
were lost and once for each event that it dropped, and of nothing else. -/
structure Received (limit : Nat) (packets : List RxPacket) (mailbox : Mailbox)
    (events : List Bytes) (d d' : Dialogue) : Prop where
  moved : ∃ id request ack frame, Request.frame id .getRxMessages = .ok request ∧
    Frame.parse ack = .ok frame ∧ Mailbox.ofFrame frame = .ok mailbox ∧
      FrameWise [request] (ack :: events) d.link d'.link
  length_events : events.length = mailbox.messages.toNat
  length_packets : packets.length = min mailbox.messages.toNat limit
  carries : List.Forall₂ Carries (events.take limit) packets
  warnings_eq : d'.link.warnings = d.link.warnings ++ (lostWarnings mailbox ++
    ((List.range mailbox.messages.toNat).drop limit).map .messageDropped)

/-- The dialogue once lost messages were warned of. -/
def warnLost (mailbox : Mailbox) (d : Dialogue) : Dialogue :=
  if 0 < mailbox.lost then { d with link := d.link.note (.messagesLost mailbox.lost) } else d

/-- What the device lost is warned of once. -/
theorem warnings_warnLost (mailbox : Mailbox) (d : Dialogue) :
    (warnLost mailbox d).link.warnings = d.link.warnings ++ lostWarnings mailbox := by
  unfold warnLost lostWarnings
  split
  · exact warnings_note_of_warn rfl d.link
  · exact (List.append_nil _).symm

theorem moved_warnLost (mailbox : Mailbox) (d : Dialogue) :
    Moved [] [] d.link (warnLost mailbox d).link := by
  unfold warnLost
  split
  · exact (Moved.refl d.link).note _
  · exact .refl d.link

/-- What is received once the mailbox is known. -/
theorem receive_of_ask {mailbox : Mailbox}
    (h : ask .getRxMessages Mailbox.ofFrame d = .ok mailbox d') (limit : Nat) :
    receive limit d = collect limit mailbox (warnLost mailbox d') := by
  rw [receive, bind_of_ok h, warnLost]
  split
  · rfl
  · rfl

/-- **A `receive` accounts for every message.** What was announced is read in full, kept up to the
limit and warned of beyond it. With a lower limit the same `receive` gives the first of the packets
and leaves the same controller and the same link, but for what was noticed. -/
theorem receive_accounts {limit : Nat} {packets : List RxPacket}
    (h : receive limit d = .ok packets d') :
    (∃ mailbox events, Received limit packets mailbox events d d') ∧
      ∀ limit' ≤ limit, ∃ d'', receive limit' d = .ok (packets.take limit') d'' ∧
        d''.controller = d'.controller ∧ SameButNotices d'.link d''.link := by
  obtain ⟨mailbox, d₁, hask, -⟩ := bind_eq_ok_iff.1 h
  rw [receive_of_ask hask] at h
  constructor
  · obtain ⟨request, ack, frame, hx, hmailbox⟩ := ask_ok hask
    obtain ⟨events, hlength, hmoved, hcarries, hwarnings⟩ := collect_ok h
    have hframes : FrameWise [request] (ack :: events) d.link d'.link :=
      (hx.frameWise.trans (.of_unmoved (moved_warnLost mailbox d₁))).trans hmoved
    have hpackets : packets.length = min mailbox.messages.toNat limit := by
      rw [← hcarries.length_eq, List.length_take, hlength, Nat.min_comm]
    refine ⟨mailbox, events,
      ⟨_, request, ack, frame, hx.frame_eq, hx.parse_eq, hmailbox, hframes⟩, hlength, hpackets,
      hcarries, ?_⟩
    rw [hwarnings, warnings_warnLost, warnings_ask hask, List.append_assoc, droppedFrom,
      Nat.sub_zero, List.range_eq_range']
  · intro limit' hle
    obtain ⟨_, hcollect, link, hlink, rfl⟩ :=
      collect_of_le hle ⟨_, Std.Refl.refl (warnLost mailbox d₁).link, rfl⟩ h
    exact ⟨_, (receive_of_ask hask limit').trans hcollect, rfl, hlink⟩

/-- A device that announces two messages, has lost four and sends two alike. -/
def mail : Dialogue where
  controller := {}
  link := { incoming := ([0, 0, 5, 0x45, 2, 0, 26, 0, 4] ++ event ++ event).map .byte }
where
  event : Bytes := [0, 0, 13, 0x50, 0, 0, 0, 0, 1, 0, 0, 0, 0, 5, 0xC0, 1, 0xAA]

/-- Where there is room for one message the other is dropped, and without any room the link ends up
in the same place. -/
theorem receive_accounts_mail :
    ∃ packets d', receive 1 mail = .ok packets d' ∧
      (∃ mailbox events, Received 1 packets mailbox events mail d') ∧
        ∃ d'', receive 0 mail = .ok [] d'' ∧ SameButNotices d'.link d''.link := by
  rcases h : receive 1 mail with ⟨packets, d'⟩ | ⟨e, d'⟩
  · obtain ⟨hreceived, hfewer⟩ := receive_accounts h
    obtain ⟨d'', hnone, -, hlink⟩ := hfewer 0 (Nat.zero_le 1)
    exact ⟨packets, d', rfl, hreceived, d'', hnone, hlink⟩
  · have hok : (Controller.step (.receive 1) mail).1.isOk = true := by decide +kernel
    rw [Controller.step_of_error (map_of_error _ h)] at hok
    cases hok

example : (Controller.step (.receive 1) mail).2.link.warnings =
    [.messagesLost 4, .messageDropped 1] := by
  decide +kernel

end LoraConcentrator.DialogueM
