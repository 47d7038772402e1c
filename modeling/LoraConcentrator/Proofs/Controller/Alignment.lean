import LoraConcentrator.Proofs.Controller.Kept

/-!
# Runs keep the frame boundary

Nothing on the link marks where a frame starts, so a conversation works only as long as every
operation leaves the link where it found it: between two frames. An operation that does not say it
left the link out of step wrote whole frames of requests and read whole frames, one for each
request, and after a `receive` that succeeded the events that its reply announced (`Balanced`).

All operations but `receive` are put together from exchanges, so for them it is enough that an
exchange reads one frame for each that it writes (`kept_inStep`); the reader of events has a loop of
its own (`reads_drain`). Main statement: every operation of every run, and every run as a whole,
moves the link frame by frame, unless an error said otherwise (`run_stays_aligned`).
-/

namespace LoraConcentrator

open Link Program

/-! ### Whole frames -/

/-- The link accepted the request frames `written` and gave up the bytes of the frames `read`. -/
structure FrameWise (written read : List Bytes) (link link' : Link) : Prop where
  isRequest : ∀ bs ∈ written, IsFrame bs ∧ ∃ id request, Request.frame id request = .ok bs
  isFrame : ∀ bs ∈ read, IsFrame bs
  moved : ∃ taken, Arrival.bytes taken = read.flatten ∧ Moved written.flatten taken link link'

namespace FrameWise

variable {written written' read read' : List Bytes} {link link' link'' : Link}

/-- A link that did not move gave and took no frames. -/
theorem of_unmoved (h : Moved [] [] link link') : FrameWise [] [] link link' where
  isRequest := List.forall_mem_nil _
  isFrame := List.forall_mem_nil _
  moved := ⟨[], rfl, h⟩

/-- Frames follow frames. -/
theorem trans (h : FrameWise written read link link') (h' : FrameWise written' read' link' link'') :
    FrameWise (written ++ written') (read ++ read') link link'' where
  isRequest := List.forall_mem_append.2 ⟨h.isRequest, h'.isRequest⟩
  isFrame := List.forall_mem_append.2 ⟨h.isFrame, h'.isFrame⟩
  moved := by
    obtain ⟨taken, htaken, hm⟩ := h.moved
    obtain ⟨taken', htaken', hm'⟩ := h'.moved
    refine ⟨taken ++ taken', ?_, ?_⟩
    · rw [Arrival.bytes_append, htaken, htaken', List.flatten_append]
    · rw [List.flatten_append]
      exact hm.trans hm'

/-- One frame that was read after some waits. -/
theorem of_read {bs : Bytes} {waits : List Arrival} (hframe : IsFrame bs)
    (hwaits : ∀ a ∈ waits, a.isFailure) (h : Moved [] (waits ++ bs.map .byte) link link') :
    FrameWise [] [bs] link link' where
  isRequest := List.forall_mem_nil _
  isFrame := List.forall_mem_singleton.2 hframe
  moved := by
    refine ⟨_, ?_, h⟩
    rw [Arrival.bytes_waits_append hwaits, List.flatten_singleton]

end FrameWise

namespace DialogueM

/-- An exchange writes one frame and reads one. -/
theorem Exchanged.frameWise {request : Request} {written reply : Bytes} {frame : Frame}
    {d d' : Dialogue} (h : Exchanged request written reply frame d d') :
    FrameWise [written] [reply] d.link d'.link where
  isRequest := List.forall_mem_singleton.2 ⟨Request.isFrame_of_frame h.frame_eq, _, _, h.frame_eq⟩
  isFrame := List.forall_mem_singleton.2 h.isFrame
  moved := by
    obtain ⟨waits, hwaits, hm⟩ := h.moved
    rw [List.flatten_singleton, List.flatten_singleton]
    exact ⟨_, Arrival.bytes_waits_append hwaits reply, hm⟩

/-! ### One reply for each request -/

/-- The link moved by whole frames, as many read as written. -/
def InStep (d d' : Dialogue) : Prop :=
  ∃ written read, FrameWise written read d.link d'.link ∧ read.length = written.length

/-- A dialogue whose link did not move is in step. -/
theorem inStep_of_unmoved {d d' : Dialogue} (h : Moved [] [] d.link d'.link) : InStep d d' :=
  ⟨[], [], .of_unmoved h, rfl⟩

instance : IsPreorder Dialogue InStep where
  refl d := inStep_of_unmoved (.refl d.link)
  trans _ _ _ := by
    rintro ⟨written, read, h, hlen⟩ ⟨written', read', h', hlen'⟩
    refine ⟨_, _, h.trans h', ?_⟩
    rw [List.length_append, List.length_append, hlen, hlen']

/-- An exchange reads one frame for the one that it writes, or its error says that it left the link
out of step. -/
theorem keeps_ask {α : Type} (request : Request) {decode : Frame → Except Error α}
    (hdecode : ∀ frame, Desynchronizing (decode frame)) :
    Keeps InStep (fun e ↦ e.desynchronizes) (ask request decode) where
  of_ok h := by
    obtain ⟨written, reply, frame, hx, -⟩ := ask_ok h
    exact ⟨[written], [reply], hx.frameWise, rfl⟩
  of_error {d d' e} h := by
    simp only [ask, bind_eq_error_iff, ofExcept_eq_error_iff] at h
    obtain h | ⟨frame, _, -, hframe, -⟩ := h
    · obtain ⟨-, ⟨-, hlink⟩ | ⟨-, -, -, -, he, -⟩⟩ := exchange_error h
      · have hm : Moved [] [] d.link d'.link := hlink ▸ .refl _
        exact .inr (inStep_of_unmoved hm)
      · exact .inl he
    · exact .inl (hdecode frame e hframe)

/-- Every exchange keeps in step, unless it fails and says so. -/
theorem kept_inStep : Kept InStep (fun e ↦ e.desynchronizes) where
  ask request _ hdecode := keeps_ask request hdecode
  note notice :=
    { of_ok := fun h ↦ by
        obtain rfl := note_eq_ok_iff.1 h
        exact inStep_of_unmoved ((Moved.refl _).note notice)
      of_error := fun h ↦ (note_ne_error.1 h).elim }
  pass time :=
    { of_ok := fun h ↦ by
        cases h
        exact inStep_of_unmoved ((Moved.refl _).pass time)
      of_error := fun h ↦ by cases h }

/-- Learning the numbers of radios moves nothing. -/
theorem keeps_ping : Keeps InStep (fun e ↦ e.desynchronizes) ping := by
  refine (keeps_ask .ping desynchronizing_identity).bind fun identity ↦ Keeps.bind ?_ fun _ ↦ ?_
  · constructor
    · intro d d' a h
      cases h
      exact inStep_of_unmoved (.refl _)
    · intro d d' e h
      cases h
  · exact (kept_inStep.note _).bind fun _ ↦ .pure _

/-! ### Announced events -/

/-- A program that writes nothing and reads that many frames, or that says with any error that it
left the link out of step. -/
structure Reads {α : Type} (count : Nat) (program : DialogueM α) : Prop where
  of_ok : ∀ {d d' : Dialogue} {a : α}, program d = .ok a d' →
    ∃ frames, FrameWise [] frames d.link d'.link ∧ frames.length = count
  of_error : ∀ {d d' : Dialogue} {e : Error}, program d = .error e d' → e.desynchronizes

namespace Reads

variable {α β : Type} {count count' : Nat}

theorem pure (a : α) : Reads 0 (pure a : DialogueM α) where
  of_ok h := by
    cases h
    exact ⟨[], .of_unmoved (.refl _), rfl⟩
  of_error h := by
    cases h

/-- The frames of a sequence are those of its parts. What the first part gave is known to the
second. -/
theorem bind {x : DialogueM α} {f : α → DialogueM β} (hx : Reads count x)
    (hf : ∀ {d d' : Dialogue} {a : α}, x d = .ok a d' → Reads count' (f a)) :
    Reads (count + count') (x >>= f) where
  of_ok h := by
    obtain ⟨a, d₁, hxd, hfd⟩ := bind_eq_ok_iff.1 h
    obtain ⟨frames, hframes, hlen⟩ := hx.of_ok hxd
    obtain ⟨frames', hframes', hlen'⟩ := (hf hxd).of_ok hfd
    refine ⟨frames ++ frames', hframes.trans hframes', ?_⟩
    rw [List.length_append, hlen, hlen']
  of_error h := by
    rcases bind_eq_error_iff.1 h with hxd | ⟨a, d₁, hxd, hfd⟩
    · exact hx.of_error hxd
    · exact (hf hxd).of_error hfd

/-- A part without frames comes first. -/
theorem after {x : DialogueM α} {f : α → DialogueM β} (hx : Reads 0 x)
    (hf : ∀ a, Reads count (f a)) : Reads count (x >>= f) := by
  rw [← Nat.zero_add count]
  exact hx.bind fun _ ↦ hf _

/-- A part without frames comes last. -/
theorem before {x : DialogueM α} {f : α → DialogueM β} (hx : Reads count x)
    (hf : ∀ a, Reads 0 (f a)) : Reads count (x >>= f) :=
  hx.bind fun _ ↦ hf _

theorem ite {c : Prop} [Decidable c] {x y : DialogueM α} (hx : Reads count x)
    (hy : Reads count y) : Reads count (if c then x else y) := by
  split
  · exact hx
  · exact hy

end Reads

theorem reads_note (notice : Notice) : Reads 0 (note notice) where
  of_ok h := by
    obtain rfl := note_eq_ok_iff.1 h
    exact ⟨[], .of_unmoved ((Moved.refl _).note notice), rfl⟩
  of_error h := (note_ne_error.1 h).elim

/-- Reading an event reads one frame. -/
theorem reads_receiveFrame : Reads 1 receiveFrame where
  of_ok h := by
    obtain ⟨-, hframe, waits, hwaits, hm⟩ := receiveFrame_ok h
    exact ⟨_, .of_read hframe hwaits hm, rfl⟩
  of_error h := (receiveFrame_error h).2.1

/-- What is made of a frame reads none, and says so when it cannot be read. -/
theorem reads_ofExcept {α : Type} {x : Except Error α} (hx : Desynchronizing x) :
    Reads 0 (ofExcept x) where
  of_ok h := by
    obtain ⟨-, rfl⟩ := ofExcept_eq_ok_iff.1 h
    exact ⟨[], .of_unmoved (.refl _), rfl⟩
  of_error h := hx _ (ofExcept_eq_error_iff.1 h).1

/-- The reader of events reads as many frames as it is told to, also those it drops. -/
theorem reads_drain (limit index left : Nat) : Reads left (drain limit index left) := by
  induction left generalizing index with
  | zero => exact .pure []
  | succ left ih =>
    suffices Reads (1 + left) (drain limit index (left + 1)) by
      rwa [Nat.add_comm 1 left] at this
    refine reads_receiveFrame.bind fun {_ _ bs} _ ↦ ?_
    have hkept : Reads left (do
        let frame ← ofExcept (Frame.parse bs)
        let packet ← ofExcept (RxPacket.ofFrame frame)
        let packets ← drain limit (index + 1) left
        return packet :: packets) := by
      refine (reads_ofExcept (desynchronizing_parse bs)).after fun frame ↦ ?_
      refine (reads_ofExcept (desynchronizing_rxPacket frame)).after fun packet ↦ ?_
      exact (ih (index + 1)).before fun _ ↦ .pure _
    -- a frame beyond the limit is dropped unread
    exact .ite ((reads_note _).after fun _ ↦ ih _) hkept

/-- Collecting the messages of a mailbox reads as many frames as it announces. -/
theorem reads_collect (limit : Nat) (mailbox : Mailbox) :
    Reads mailbox.messages.toNat (collect limit mailbox) := by
  unfold collect
  split
  · rename_i hnone
    rw [hnone]
    exact .pure []
  · refine (reads_note _).after fun _ ↦ ?_
    refine (reads_drain limit 0 mailbox.messages.toNat).before fun packets ↦ ?_
    exact .ite ((reads_note _).after fun _ ↦ .pure packets) (.pure packets)

/-- What a `receive` does after its exchange. -/
theorem reads_rest (limit : Nat) (mailbox : Mailbox) :
    Reads mailbox.messages.toNat (do
      if 0 < mailbox.lost then
        note (.messagesLost mailbox.lost)
      collect limit mailbox) :=
  .ite ((reads_note _).after fun _ ↦ reads_collect limit mailbox) (reads_collect limit mailbox)

variable {d d' : Dialogue}

/-- A `receive` that succeeds reads the reply to its request and the events that this announces. -/
theorem receive_ok {limit : Nat} {packets : List RxPacket}
    (h : receive limit d = .ok packets d') :
    ∃ id request ack frame mailbox events, Request.frame id .getRxMessages = .ok request ∧
      Frame.parse ack = .ok frame ∧ Mailbox.ofFrame frame = .ok mailbox ∧
        events.length = mailbox.messages.toNat ∧
          FrameWise [request] (ack :: events) d.link d'.link := by
  obtain ⟨mailbox, d₁, hask, hrest⟩ := bind_eq_ok_iff.1 h
  obtain ⟨request, ack, frame, hx, hmailbox⟩ := ask_ok hask
  obtain ⟨events, hevents, hlen⟩ := (reads_rest limit mailbox).of_ok hrest
  exact ⟨_, request, ack, frame, mailbox, events, hx.frame_eq, hx.parse_eq, hmailbox, hlen,
    hx.frameWise.trans hevents⟩

/-- A `receive` that fails has left the link out of step: its request can always be written. -/
theorem receive_error {limit : Nat} {e : Error} (h : receive limit d = .error e d') :
    e.desynchronizes := by
  obtain hask | ⟨mailbox, d₁, -, hrest⟩ := bind_eq_error_iff.1 h
  · obtain hexchange | ⟨frame, _, -, hframe⟩ := bind_eq_error_iff.1 hask
    · obtain ⟨-, ⟨hp, -⟩ | ⟨-, -, -, -, he, -⟩⟩ := exchange_error hexchange
      · cases hp
      · exact he
    · exact desynchronizing_mailbox _ _ (ofExcept_eq_error_iff.1 hframe).1
  · exact (reads_rest limit mailbox).of_error hrest

end DialogueM

namespace Controller

/-! ### Operations -/

/-- The frames `read` are the replies to the requests `written` and, for a `receive` that succeeded,
the events that its reply announced. A `receive` that fails is never balanced. -/
inductive Balanced : Operation → Except Error Answer → (written read : List Bytes) → Prop
  | answered {operation : Operation} {outcome : Except Error Answer} {written read : List Bytes} :
    (∀ limit, operation ≠ .receive limit) → read.length = written.length →
      Balanced operation outcome written read
  | received {limit : Nat} {packets : List RxPacket} {id : UInt8} {request ack : Bytes}
      {events : List Bytes} {frame : Frame} {mailbox : Mailbox} :
    Request.frame id .getRxMessages = .ok request → Frame.parse ack = .ok frame →
      Mailbox.ofFrame frame = .ok mailbox → events.length = mailbox.messages.toNat →
        Balanced (.receive limit) (.ok (.packets packets)) [request] (ack :: events)

/-- An outcome that says that the link was left out of step. -/
def Desynchronized (outcome : Except Error Answer) : Prop :=
  ∃ e, outcome = .error e ∧ e.desynchronizes

/-- An operation between two states of the link moves it frame by frame, in balance. -/
def Aligned (operation : Operation) (outcome : Except Error Answer) (link link' : Link) : Prop :=
  ∃ written read, FrameWise written read link link' ∧ Balanced operation outcome written read

/-- An operation other than `receive` keeps the link in step. -/
theorem keeps_run {operation : Operation} (h : ∀ limit, operation ≠ .receive limit) :
    Keeps DialogueM.InStep (fun e ↦ e.desynchronizes) operation.run := by
  by_cases hping : operation = .ping
  · subst hping
    exact DialogueM.keeps_ping.map _
  · exact DialogueM.kept_inStep.run hping h

/-- An operation that keeps in step is aligned, as it announces no events. -/
theorem aligned_of_inStep {operation : Operation} {outcome : Except Error Answer}
    {d d' : Dialogue} (hne : ∀ limit, operation ≠ .receive limit) (h : DialogueM.InStep d d') :
    Aligned operation outcome d.link d'.link := by
  obtain ⟨written, read, hmoved, hlen⟩ := h
  exact ⟨written, read, hmoved, .answered hne hlen⟩

/-- A `receive` is aligned with the events that its reply announces. -/
theorem aligned_receive (limit : Nat) (d : Dialogue) :
    Desynchronized (step (.receive limit) d).1 ∨
      Aligned (.receive limit) (step (.receive limit) d).1 d.link
        (step (.receive limit) d).2.link := by
  rcases h : (Operation.receive limit).run d with ⟨answer, d'⟩ | ⟨e, d'⟩
  · rw [step_of_ok h]
    rw [Operation.run, map_eq_bind] at h
    obtain ⟨packets, _, h, hanswer⟩ := bind_eq_ok_iff.1 h
    obtain ⟨rfl, rfl⟩ := pure_eq_ok_iff.1 hanswer
    obtain ⟨id, request, ack, frame, mailbox, events, hrequest, hframe, hmailbox, hlen, hmoved⟩ :=
      DialogueM.receive_ok h
    exact .inr ⟨[request], ack :: events, hmoved, .received hrequest hframe hmailbox hlen⟩
  · rw [step_of_error h]
    rw [Operation.run, map_eq_bind] at h
    obtain h | ⟨_, _, -, h⟩ := bind_eq_error_iff.1 h
    · exact .inl ⟨e, rfl, DialogueM.receive_error h⟩
    · exact (pure_ne_error.1 h).elim

/-- An operation moves the link frame by frame or says that it left it out of step. -/
theorem step_aligned (operation : Operation) (d : Dialogue) :
    Desynchronized (step operation d).1 ∨
      Aligned operation (step operation d).1 d.link (step operation d).2.link := by
  by_cases hne : ∀ limit, operation ≠ .receive limit
  · rcases h : operation.run d with ⟨answer, d'⟩ | ⟨e, d'⟩
    · rw [step_of_ok h]
      exact .inr (aligned_of_inStep hne ((keeps_run hne).of_ok h))
    · rw [step_of_error h]
      rcases (keeps_run hne).of_error h with he | hstep
      · exact .inl ⟨e, rfl, he⟩
      · exact .inr (aligned_of_inStep hne hstep)
  · push Not at hne
    obtain ⟨limit, rfl⟩ := hne
    exact aligned_receive limit d

/-- The frames of a run are those of its operations one after the other. -/
inductive BalancedRun :
    List Operation → List (Except Error Answer) → (written read : List Bytes) → Prop
  | nil : BalancedRun [] [] [] []
  | cons {operation : Operation} {operations : List Operation} {outcome : Except Error Answer}
      {outcomes : List (Except Error Answer)} {written written' read read' : List Bytes} :
    Balanced operation outcome written read → BalancedRun operations outcomes written' read' →
      BalancedRun (operation :: operations) (outcome :: outcomes) (written ++ written')
        (read ++ read')

/-- A run moves the link frame by frame or one of its outcomes says that the link was left out of
step. -/
theorem run_aligned (operations : List Operation) (d : Dialogue) :
    (∃ outcome ∈ (run operations d).1, Desynchronized outcome) ∨
      ∃ written read, FrameWise written read d.link (run operations d).2.link ∧
        BalancedRun operations (run operations d).1 written read := by
  induction operations generalizing d with
  | nil => exact .inr ⟨[], [], .of_unmoved (.refl _), .nil⟩
  | cons operation operations ih =>
    show (∃ outcome ∈ (step operation d).1 :: (run operations (step operation d).2).1, _) ∨
      ∃ written read, FrameWise written read d.link (run operations (step operation d).2).2.link ∧
        BalancedRun _ ((step operation d).1 :: (run operations (step operation d).2).1) _ _
    rcases step_aligned operation d with hstep | ⟨written, read, hmoved, hbalanced⟩
    · exact .inl ⟨_, List.mem_cons_self, hstep⟩
    rcases ih (step operation d).2 with ⟨outcome, hmem, hrun⟩ | ⟨written', read', hmoved', hrun⟩
    · exact .inl ⟨outcome, List.mem_cons_of_mem _ hmem, hrun⟩
    · exact .inr ⟨_, _, hmoved.trans hmoved', .cons hbalanced hrun⟩

/-- **The frame boundary is kept**: whatever the link does and whatever was asked of it before, an
operation writes whole request frames and reads the replies to them, with the events announced to a
`receive`, or its error says that it left the link out of step; and so does the run as a whole. -/
theorem run_stays_aligned (operations : List Operation) (d : Dialogue) :
    (∀ operation,
      let after := (run operations d).2
      Desynchronized (step operation after).1 ∨
        Aligned operation (step operation after).1 after.link (step operation after).2.link) ∧
    ((∃ outcome ∈ (run operations d).1, Desynchronized outcome) ∨
      ∃ written read, FrameWise written read d.link (run operations d).2.link ∧
        BalancedRun operations (run operations d).1 written read) :=
  ⟨fun operation ↦ step_aligned operation _, run_aligned operations d⟩

/-- The announced event is read although there is no room for it, so the next reply is found. -/
example :
    (run [.receive 0, .txStatus]
      ⟨{}, { incoming := ([0, 0, 5, 0x45, 1, 0, 3, 0, 0] ++ [0, 0, 3, 0x60, 7, 7, 7] ++
        [0, 0, 1, 0x46, 0] : Bytes).map .byte }⟩).1 =
      [.ok (.packets []), .ok (.txStatus (.ofCode 0))] := by
  decide +kernel

/-- A write that fails with one byte of the frame left is an error that says where it left the
link. -/
example :
    let after := run [.ping] ⟨{}, { writeLimit := fun _ ↦ 3, writeFaults := [none, some .refusal] }⟩
    after.1 = [.error (.io ⟨.writeZero, "failed to write whole buffer"⟩)] ∧
      after.2.link.sent.length = 3 ∧
      (Error.io ⟨.writeZero, "failed to write whole buffer"⟩).desynchronizes := by
  decide +kernel

end Controller

end LoraConcentrator
