import LoraConcentrator.Proofs.Controller.Checks
import LoraConcentrator.Proofs.Link.Ids

/-!
# Replies that differ in ids

The id of a frame is looked at in one place only, the check of a reply. Where a controller makes no
such check, two dialogues whose links differ in the ids of frames to come cannot be told apart by
any operation (`DialogueM.hidden_alikeUnchecked`).

The reader of events makes no check at all, so what is received does not depend on the ids of the
events whether replies are checked or not (`DialogueM.receive_sameButIds`). Here it is kept count of
the frames that are read, so that it is known that nothing differs behind them.
-/

namespace LoraConcentrator

open Program
open Link (SameButIds SameButLaterIds)

namespace DialogueM

/-! ### Links that differ in ids -/

section SameButIds

variable {free : Nat → Prop} {d d' : Dialogue}

/-- The notices need not be the same. -/
theorem over_sameButIds_note (h : Dialogue.Over (SameButIds free) d d') (notice notice' : Notice) :
    Dialogue.Over (SameButIds free) { d with link := d.link.note notice }
      { d' with link := d'.link.note notice' } := by
  obtain ⟨link, hl, rfl⟩ := h
  exact ⟨_, hl.note notice notice', rfl⟩

theorem over_sameButLaterIds (h : Dialogue.Over (SameButIds free) d d') :
    Dialogue.Over (SameButLaterIds free) d d' := by
  obtain ⟨link, hl, rfl⟩ := h
  exact ⟨link, ⟨0, hl⟩, rfl⟩

/-- After frames that were read the ids count on. -/
theorem over_sameButLaterIds_of_read {read : Nat}
    (h : Dialogue.Over (SameButLaterIds fun i ↦ free (i + read)) d d') :
    Dialogue.Over (SameButLaterIds free) d d' := by
  obtain ⟨link, ⟨n, hl⟩, rfl⟩ := h
  exact ⟨link, ⟨n + read, hl.mono fun i hi ↦ Nat.add_assoc i n read ▸ hi⟩, rfl⟩

/-- A reader of frames finds the same frame but for its id, or fails in the same way. -/
theorem receiveFrame_sameButIds (h : Dialogue.Over (SameButIds free) d d') :
    (∃ id id' bs next next', receiveFrame d = .ok (id :: bs) next ∧
      receiveFrame d' = .ok (id' :: bs) next' ∧ (¬ free 0 → id' = id) ∧
        Dialogue.Over (SameButIds fun i ↦ free (i + 1)) next next') ∨
    ∃ e next next', receiveFrame d = .error e next ∧ receiveFrame d' = .error e next' ∧
      Dialogue.Over (SameButLaterIds free) next next' := by
  obtain ⟨link, hl, rfl⟩ := h
  have hrun (link : Link) : receiveFrame { d with link := link } =
      onLink (LinkM.receiveFrame LinkM.replyCapacity d.controller.replyTimeout)
        { d with link := link } := rfl
  rcases LinkM.receiveFrame_sameButIds hl d.controller.replyTimeout with
    ⟨id, id', bs, next, next', hread, hread', hid, hnext⟩ | ⟨e, next, next', hread, hread', hnext⟩
  · exact .inl ⟨id, id', bs, { d with link := next }, { d with link := next' },
      (hrun d.link).trans (onLink_eq_ok_iff.2 ⟨next, hread, rfl⟩),
      (hrun link).trans (onLink_eq_ok_iff.2 ⟨next', hread', rfl⟩), hid, next', hnext, rfl⟩
  · exact .inr ⟨e, { d with link := next }, { d with link := next' },
      (hrun d.link).trans (onLink_eq_error_iff.2 ⟨next, hread, rfl⟩),
      (hrun link).trans (onLink_eq_error_iff.2 ⟨next', hread', rfl⟩), next', hnext, rfl⟩

/-- Until the reply is read nothing that differs is looked at. -/
theorem lockstep_speak (request : Request) :
    Lockstep (Dialogue.Over (SameButIds free)) (speak request) (speak request) :=
  lockstep_drawId.bind fun id ↦ (lockstep_ofExcept _).bind fun payload ↦
    (lockstep_onLink fun _ _ hl ↦ hl.sendRequest id request.code payload).bind fun _ ↦ .pure id

/-- The reply is the same but for its id, or is not read in the same way. -/
theorem listen_sameButIds (h : Dialogue.Over (SameButIds free) d d') :
    (∃ frame id next next', listen d = .ok frame next ∧ listen d' = .ok (frame.withId id) next' ∧
      (¬ free 0 → id = frame.header.id) ∧
        Dialogue.Over (SameButIds fun i ↦ free (i + 1)) next next') ∨
    ∃ e next next', listen d = .error e next ∧ listen d' = .error e next' ∧
      Dialogue.Over (SameButLaterIds free) next next' := by
  unfold listen
  rcases receiveFrame_sameButIds h with
    ⟨id, id', bs, next, next', hread, hread', hid, hnext⟩ | ⟨e, next, next', hread, hread', hnext⟩
  · rw [bind_of_ok hread, bind_of_ok hread', Frame.parse_cons id id']
    cases hparse : Frame.parse (id :: bs) with
    | ok frame =>
      obtain ⟨rest, hbytes, -⟩ := Frame.parse_eq_ok_iff.1 hparse
      have hown : id = frame.header.id := (List.cons_eq_cons.1 hbytes).1
      exact .inl ⟨frame, id', _, _, rfl, rfl, fun hkept ↦ (hid hkept).trans hown,
        over_sameButIds_note hnext _ _⟩
    | error e =>
      exact .inr ⟨e, next, next', rfl, rfl,
        over_sameButLaterIds_of_read (over_sameButLaterIds hnext)⟩
  · rw [bind_of_error hread, bind_of_error hread']
    exact .inr ⟨e, next, next', rfl, rfl, hnext⟩

/-- An exchange gives the same frame but for its id, or fails in the same way, when no id is checked
or that of its reply is the same. -/
theorem exchange_sameButIds (h : Dialogue.Over (SameButIds free) d d')
    (hchecks : d.controller.checksIds → ¬ free 0) (request : Request) :
    (∃ frame id next next', exchange request d = .ok frame next ∧
      exchange request d' = .ok (frame.withId id) next' ∧
        Dialogue.Over (SameButIds fun i ↦ free (i + 1)) next next') ∨
    ∃ e next next', exchange request d = .error e next ∧ exchange request d' = .error e next' ∧
      Dialogue.Over (SameButLaterIds free) next next' := by
  rw [exchange_eq]
  rcases (lockstep_speak request h).ok_or_error with
    ⟨own, d₁, d₁', hspeak, hspeak', h₁⟩ | ⟨e, d₁, d₁', hspeak, hspeak', h₁⟩
  · rw [bind_of_ok hspeak, bind_of_ok hspeak']
    rcases listen_sameButIds h₁ with
      ⟨frame, id, next, next', hlisten, hlisten', hid, hnext⟩ |
        ⟨e, next, next', hlisten, hlisten', hnext⟩
    · rw [bind_of_ok hlisten, bind_of_ok hlisten', check_eq, check_eq]
      have hchecks' : next'.controller.checksIds = next.controller.checksIds := by
        obtain ⟨link, -, rfl⟩ := hnext
        rfl
      have hkept : next.controller.checksIds → ¬ free 0 := by
        rw [listen_ok hlisten, (speak_ok hspeak).2]
        exact hchecks
      rw [hchecks']
      by_cases hon : next.controller.checksIds
      · -- the reply is the same as well
        have hsame : frame.withId id = frame := by
          rw [hid (hkept hon)]
          rfl
        rw [hsame]
        split
        · exact .inr ⟨_, next, next', rfl, rfl,
            over_sameButLaterIds_of_read (over_sameButLaterIds hnext)⟩
        · exact .inl ⟨frame, id, next, next', rfl, by rw [hsame], hnext⟩
      · rw [if_neg fun h ↦ hon h.1, if_neg fun h ↦ hon h.1]
        exact .inl ⟨frame, id, next, next', rfl, rfl, hnext⟩
    · rw [bind_of_error hlisten, bind_of_error hlisten']
      exact .inr ⟨e, next, next', rfl, rfl, hnext⟩
  · rw [bind_of_error hspeak, bind_of_error hspeak']
    exact .inr ⟨e, d₁, d₁', rfl, rfl, over_sameButLaterIds h₁⟩

/-- The same of a reply that is read by a decoder. -/
theorem ask_sameButIds (h : Dialogue.Over (SameButIds free) d d')
    (hchecks : d.controller.checksIds → ¬ free 0) (request : Request) {α : Type}
    {decode : Frame → Except Error α} (hdecode : IgnoresId decode) :
    (∃ a next next', ask request decode d = .ok a next ∧ ask request decode d' = .ok a next' ∧
      Dialogue.Over (SameButIds fun i ↦ free (i + 1)) next next') ∨
    ∃ e next next', ask request decode d = .error e next ∧ ask request decode d' = .error e next' ∧
      Dialogue.Over (SameButLaterIds free) next next' := by
  unfold ask
  rcases exchange_sameButIds h hchecks request with
    ⟨frame, id, next, next', hx, hx', hnext⟩ | ⟨e, next, next', hx, hx', hnext⟩
  · rw [bind_of_ok hx, bind_of_ok hx', hdecode frame id]
    cases decode frame with
    | ok a => exact .inl ⟨a, next, next', rfl, rfl, hnext⟩
    | error e =>
      exact .inr ⟨e, next, next', rfl, rfl,
        over_sameButLaterIds_of_read (over_sameButLaterIds hnext)⟩
  · rw [bind_of_error hx, bind_of_error hx']
    exact .inr ⟨e, next, next', rfl, rfl, hnext⟩

end SameButIds

/-! ### Unchecked ids -/

/-- Any id may differ. -/
def anyId : Nat → Prop := fun _ ↦ True

/-- Where some of the later ids may differ, any may. -/
theorem over_anyId {free : Nat → Prop} {d d' : Dialogue}
    (h : Dialogue.Over (SameButLaterIds free) d d') : Dialogue.Over (SameButIds anyId) d d' := by
  obtain ⟨link, ⟨read, hl⟩, rfl⟩ := h
  exact ⟨link, hl.mono fun _ _ ↦ trivial, rfl⟩

end DialogueM

/-- No ids are checked, and the dialogues are the same but for ids to come and for what the links
remember. -/
structure Dialogue.AlikeUnchecked (d d' : Dialogue) : Prop where
  unchecked : ¬ d.controller.checksIds
  alike : Dialogue.Over (SameButIds DialogueM.anyId) d d'

namespace DialogueM

/-- No operation can tell the ids of replies and events when ids are not checked. -/
theorem hidden_alikeUnchecked : Dialogue.Hidden Dialogue.AlikeUnchecked where
  note notice h := ⟨h.unchecked, over_sameButIds_note h.alike notice notice⟩
  receiveFrame {_ f} hf hid d d' h := by
    rcases receiveFrame_sameButIds h.alike with
      ⟨id, id', bs, next, next', hread, hread', -, hnext⟩ | ⟨e, next, next', hread, hread', hnext⟩
    · rw [bind_of_ok hread, bind_of_ok hread', hid id id' bs]
      have hcontroller := (receiveFrame_ok hread).1
      exact hf _ ⟨hcontroller ▸ h.unchecked, hnext⟩
    · rw [bind_of_error hread, bind_of_error hread']
      have hcontroller := (receiveFrame_error hread).1
      exact .error ⟨hcontroller ▸ h.unchecked, over_anyId hnext⟩
  rxRadios_eq := by
    rintro d _ ⟨-, link, -, rfl⟩
    rfl
  clock_eq := by
    rintro d _ ⟨-, link, hl, rfl⟩
    exact hl.clock_eq
  pending_eq := by
    rintro d _ ⟨-, link, hl, rfl⟩
    exact hl.pending_eq
  pass time := by
    rintro ⟨hunchecked, link, hl, rfl⟩
    exact ⟨hunchecked, _, hl.pass time, rfl⟩
  learn rxRadios txRadios := by
    rintro ⟨hunchecked, link, hl, rfl⟩
    exact ⟨hunchecked, link, hl, rfl⟩
  ask request decode hdecode d d' h := by
    have hunchecked {next : Dialogue}
        (hcontroller : next.controller = d.controller.withIds d.controller.ids.next.2) :
        ¬ next.controller.checksIds := by
      rw [hcontroller, Controller.checksIds_withIds]
      exact h.unchecked
    rcases ask_sameButIds h.alike (fun hon ↦ absurd hon h.unchecked) request hdecode with
      ⟨a, next, next', hx, hx', hnext⟩ | ⟨e, next, next', hx, hx', hnext⟩
    · rw [hx, hx']
      exact .ok ⟨hunchecked (controller_of_ask_ok hx), over_anyId (over_sameButLaterIds hnext)⟩
    · rw [hx, hx']
      exact .error ⟨hunchecked (controller_of_ask_error hx), over_anyId hnext⟩

/-! ### Ids of events -/

/-- Whatever the ids of the next frames are, the program ends alike. When it ends well it has read
that many frames. -/
structure IgnoresIds {α : Type} (frames : Nat) (program : DialogueM α) : Prop where
  agree : ∀ {free : Nat → Prop} {d d' : Dialogue}, Dialogue.Over (SameButIds free) d d' →
    (∃ a next next', program d = .ok a next ∧ program d' = .ok a next' ∧
      Dialogue.Over (SameButIds fun i ↦ free (i + frames)) next next') ∨
    ∃ e next next', program d = .error e next ∧ program d' = .error e next' ∧
      Dialogue.Over (SameButLaterIds free) next next'

namespace IgnoresIds

variable {α β : Type} {frames frames' : Nat}

theorem pure (a : α) : IgnoresIds 0 (pure a : DialogueM α) where
  agree h := .inl ⟨a, _, _, rfl, rfl, h⟩

theorem ofExcept (x : Except Error α) : IgnoresIds 0 (ofExcept x) where
  agree {free d d'} h := by
    cases x with
    | ok a => exact .inl ⟨a, d, d', rfl, rfl, h⟩
    | error e => exact .inr ⟨e, d, d', rfl, rfl, over_sameButLaterIds h⟩

theorem note (notice : Notice) : IgnoresIds 0 (note notice) where
  agree h := .inl ⟨(), _, _, rfl, rfl, over_sameButIds_note h notice notice⟩

/-- A sequence reads the frames of its parts, and ignores their ids. -/
theorem bind {x : DialogueM α} {f : α → DialogueM β} (hx : IgnoresIds frames x)
    (hf : ∀ a, IgnoresIds frames' (f a)) : IgnoresIds (frames + frames') (x >>= f) := by
  refine ⟨fun {free d d'} h ↦ ?_⟩
  rcases hx.agree h with ⟨a, d₁, d₁', hx₁, hx₁', h₁⟩ | ⟨e, next, next', hx₁, hx₁', hnext⟩
  · rw [bind_of_ok hx₁, bind_of_ok hx₁']
    rcases (hf a).agree h₁ with
      ⟨b, next, next', hf₁, hf₁', hnext⟩ | ⟨e, next, next', hf₁, hf₁', hnext⟩
    · refine .inl ⟨b, next, next', hf₁, hf₁', ?_⟩
      simpa only [Nat.add_comm frames frames', ← Nat.add_assoc] using hnext
    · exact .inr ⟨e, next, next', hf₁, hf₁', over_sameButLaterIds_of_read hnext⟩
  · rw [bind_of_error hx₁, bind_of_error hx₁']
    exact .inr ⟨e, next, next', rfl, rfl, hnext⟩

/-- What follows a part that reads nothing. -/
theorem after {x : DialogueM α} {f : α → DialogueM β} (hx : IgnoresIds 0 x)
    (hf : ∀ a, IgnoresIds frames (f a)) : IgnoresIds frames (x >>= f) := by
  have := hx.bind hf
  rwa [Nat.zero_add] at this

/-- What precedes a part that reads nothing. -/
theorem before {x : DialogueM α} {f : α → DialogueM β} (hx : IgnoresIds frames x)
    (hf : ∀ a, IgnoresIds 0 (f a)) : IgnoresIds frames (x >>= f) :=
  hx.bind hf

theorem ite {c : Prop} [Decidable c] {x y : DialogueM α} (hx : IgnoresIds frames x)
    (hy : IgnoresIds frames y) : IgnoresIds frames (if c then x else y) := by
  split
  · exact hx
  · exact hy

/-- A frame is read, and what follows does not depend on its id. -/
theorem receiveFrame_bind {f : Bytes → DialogueM α} (hf : ∀ bs, IgnoresIds frames (f bs))
    (hid : ∀ id id' bs, f (id' :: bs) = f (id :: bs)) :
    IgnoresIds (frames + 1) (receiveFrame >>= f) := by
  refine ⟨fun {free d d'} h ↦ ?_⟩
  rcases receiveFrame_sameButIds h with
    ⟨id, id', bs, d₁, d₁', hread, hread', -, h₁⟩ | ⟨e, next, next', hread, hread', hnext⟩
  · rw [bind_of_ok hread, bind_of_ok hread', hid id id' bs]
    rcases (hf (id :: bs)).agree h₁ with ⟨a, next, next', hf₁, hf₁', hnext⟩ |
      ⟨e, next, next', hf₁, hf₁', hnext⟩
    · exact .inl ⟨a, next, next', hf₁, hf₁', hnext⟩
    · exact .inr ⟨e, next, next', hf₁, hf₁', over_sameButLaterIds_of_read hnext⟩
  · rw [bind_of_error hread, bind_of_error hread']
    exact .inr ⟨e, next, next', rfl, rfl, hnext⟩

end IgnoresIds

/-- By induction on the events that are left. -/
theorem ignoresIds_drain (limit index left : Nat) : IgnoresIds left (drain limit index left) := by
  induction left generalizing index with
  | zero => exact .pure []
  | succ left ih =>
    refine IgnoresIds.receiveFrame_bind (fun bytes ↦ ?_) fun id id' bs ↦ ?_
    · refine .ite ((IgnoresIds.note _).after fun _ ↦ ih _) ?_
      refine (IgnoresIds.ofExcept _).after fun frame ↦ (IgnoresIds.ofExcept _).after fun packet ↦ ?_
      exact (ih _).before fun _ ↦ .pure _
    · rw [parse_bind_congr ignoresId_rxPacket _ id id']

/-- Collecting the packets ignores the ids of all announced events. -/
theorem ignoresIds_collect (limit : Nat) (mailbox : Mailbox) :
    IgnoresIds mailbox.messages.toNat (collect limit mailbox) := by
  unfold collect
  split
  · rename_i hnone
    rw [hnone]
    exact .pure []
  · refine (IgnoresIds.note _).after fun _ ↦ (ignoresIds_drain _ _ _).before fun packets ↦ ?_
    exact .ite ((IgnoresIds.note _).after fun _ ↦ .pure packets) (.pure packets)

/-- The ids of the events that are read do not change what is received, nor does that of the reply
unless it is checked. -/
theorem receive_sameButIds {free : Nat → Prop} {d d' : Dialogue}
    (h : Dialogue.Over (SameButIds free) d d') (hchecks : d.controller.checksIds → ¬ free 0)
    (limit : Nat) :
    (∃ (packets : List RxPacket) (mailbox : Mailbox) (d₁ next next' : Dialogue),
      ask .getRxMessages Mailbox.ofFrame d = .ok mailbox d₁ ∧ receive limit d = .ok packets next ∧
        receive limit d' = .ok packets next' ∧
          Dialogue.Over (SameButIds fun i ↦ free (i + (mailbox.messages.toNat + 1))) next next') ∨
    ∃ e next next', receive limit d = .error e next ∧ receive limit d' = .error e next' ∧
      Dialogue.Over (SameButLaterIds free) next next' := by
  have hrest (mailbox : Mailbox) : IgnoresIds mailbox.messages.toNat (do
      if 0 < mailbox.lost then
        DialogueM.note (.messagesLost mailbox.lost)
      collect limit mailbox) :=
    .ite ((IgnoresIds.note _).after fun _ ↦ ignoresIds_collect limit mailbox)
      (ignoresIds_collect limit mailbox)
  unfold receive
  rcases ask_sameButIds h hchecks .getRxMessages ignoresId_mailbox with
    ⟨mailbox, d₁, d₁', hask, hask', h₁⟩ | ⟨e, next, next', hask, hask', hnext⟩
  · rw [bind_of_ok hask, bind_of_ok hask']
    rcases (hrest mailbox).agree h₁ with ⟨packets, next, next', hrun, hrun', hnext⟩ |
      ⟨e, next, next', hrun, hrun', hnext⟩
    · exact .inl ⟨packets, mailbox, d₁, next, next', hask, hrun, hrun', hnext⟩
    · exact .inr ⟨e, next, next', hrun, hrun', over_sameButLaterIds_of_read hnext⟩
  · rw [bind_of_error hask, bind_of_error hask']
    exact .inr ⟨e, next, next', rfl, rfl, hnext⟩

end DialogueM

end LoraConcentrator
