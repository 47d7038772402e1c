import LoraConcentrator.Proofs.Controller.Kept
import LoraConcentrator.Proofs.Link.RequestStream

/-!
# The requests of a program

`Sends requests program` says which requests a program writes: when it succeeds, the frames of all
of them, under the ids that the controller has next, and when it fails, the start of these bytes.
The requests of a sequence are those of its parts one after the other (`Sends.bind`), so the
requests of an operation are read off its definition.

The numbers of radios that the controller knows are another matter: no exchange changes them
(`kept_sameRadios`), and only radios within them are configured (`lt_of_configRx_ok`).
-/

namespace LoraConcentrator

/-! ### Numbered requests -/

/-- The requests with the ids that they are written under. -/
def IdSource.number : IdSource → List Request → List (UInt8 × Request)
  | _, [] => []
  | source, r :: requests => (source.next.1, r) :: number source.next.2 requests

/-- Requests after others are numbered on. -/
theorem IdSource.number_append (source : IdSource) (requests requests' : List Request) :
    source.number (requests ++ requests') =
      source.number requests ++ (after requests.length source).number requests' := by
  induction requests generalizing source with
  | nil => rfl
  | cons r requests ih =>
    show _ :: source.next.2.number (requests ++ requests') = _
    rw [ih]
    rfl

/-- Numbering changes no request. -/
theorem IdSource.map_snd_number (source : IdSource) (requests : List Request) :
    (source.number requests).map Prod.snd = requests := by
  induction requests generalizing source with
  | nil => rfl
  | cons r requests ih => exact congrArg (r :: ·) (ih source.next.2)

theorem IdSource.snd_mem_of_mem_number {source : IdSource} {requests : List Request}
    {p : UInt8 × Request} (h : p ∈ source.number requests) : p.2 ∈ requests := by
  rw [← map_snd_number source requests]
  exact List.mem_map_of_mem h

/-- Drawing ids twice is drawing them all. -/
theorem IdSource.after_add (source : IdSource) (m n : Nat) :
    after (m + n) source = after n (after m source) := by
  induction m generalizing source with
  | zero => rw [Nat.zero_add, after]
  | succ m ih => rw [Nat.succ_add, after, ih, after]

/-- The bytes of requests after others are their bytes after those of the others. -/
theorem Request.stream_append {requests requests' : List (UInt8 × Request)} {bs bs' : Bytes}
    (h : stream requests = .ok bs) (h' : stream requests' = .ok bs') :
    stream (requests ++ requests') = .ok (bs ++ bs') := by
  induction requests generalizing bs with
  | nil =>
    cases h
    exact h'
  | cons p requests ih =>
    obtain ⟨id, r⟩ := p
    obtain ⟨first, rest, hfirst, hrest, rfl⟩ := stream_cons_eq_ok_iff.1 h
    rw [List.append_assoc]
    exact stream_cons_eq_ok_iff.2 ⟨first, _, hfirst, ih hrest, rfl⟩

/-- The bytes written show the requests, also when their ids are drawn from one source. -/
theorem IdSource.number_stream_injective {source : IdSource} {requests requests' : List Request}
    {bs : Bytes} (h : Request.stream (source.number requests) = .ok bs)
    (h' : Request.stream (source.number requests') = .ok bs) : requests = requests' := by
  have hnumber := congrArg (List.map Prod.snd) (LinkM.stream_injective h h')
  rwa [map_snd_number, map_snd_number] at hnumber

namespace DialogueM

open Link Program

/-! ### Requests written -/

/-- The dialogue wrote the frames of the requests. -/
structure Sent (requests : List Request) (d d' : Dialogue) : Prop where
  ids_eq : d'.controller.ids = IdSource.after requests.length d.controller.ids
  moved : ∃ bytes taken, Request.stream (d.controller.ids.number requests) = .ok bytes ∧
    Moved bytes taken d.link d'.link

/-- The dialogue wrote the frames of the requests up to some byte. -/
def SentPart (requests : List Request) (d d' : Dialogue) : Prop :=
  ∃ begun bytes sent taken, begun <+: requests ∧
    Request.stream (d.controller.ids.number begun) = .ok bytes ∧ sent <+: bytes ∧
      Moved sent taken d.link d'.link

section Sent

variable {requests requests' : List Request} {d d' d'' : Dialogue}

/-- A dialogue that does nothing sent no requests. -/
theorem sent_nil (hids : d'.controller.ids = d.controller.ids)
    (hm : Moved [] [] d.link d'.link) : Sent [] d d' :=
  ⟨hids, [], [], rfl, hm⟩

/-- Requests are sent after others, under the ids that follow. -/
theorem Sent.trans (h : Sent requests d d') (h' : Sent requests' d' d'') :
    Sent (requests ++ requests') d d'' where
  ids_eq := by rw [h'.ids_eq, h.ids_eq, List.length_append, IdSource.after_add]
  moved := by
    obtain ⟨bytes, taken, hbytes, hm⟩ := h.moved
    obtain ⟨bytes', taken', hbytes', hm'⟩ := h'.moved
    rw [h.ids_eq] at hbytes'
    rw [IdSource.number_append]
    exact ⟨_, _, Request.stream_append hbytes hbytes', hm.trans hm'⟩

theorem sentPart_nil (requests : List Request) (hm : Moved [] [] d.link d'.link) :
    SentPart requests d d' :=
  ⟨[], [], [], [], List.nil_prefix, rfl, List.prefix_rfl, hm⟩

/-- The start of some requests is that of more. -/
theorem SentPart.append (h : SentPart requests d d') (requests' : List Request) :
    SentPart (requests ++ requests') d d' := by
  obtain ⟨begun, bytes, sent, taken, hbegun, hbytes, hsent, hm⟩ := h
  exact ⟨begun, bytes, sent, taken, hbegun.trans (List.prefix_append _ _), hbytes, hsent, hm⟩

/-- All of some requests and the start of others is the start of both. -/
theorem Sent.trans_part (h : Sent requests d d') (h' : SentPart requests' d' d'') :
    SentPart (requests ++ requests') d d'' := by
  obtain ⟨bytes, taken, hbytes, hm⟩ := h.moved
  obtain ⟨begun, bytes', sent', taken', hbegun, hbytes', hsent', hm'⟩ := h'
  -- the second part draws its ids where the first one stopped
  rw [h.ids_eq] at hbytes'
  refine ⟨requests ++ begun, bytes ++ bytes', bytes ++ sent', _,
    (List.prefix_append_right_inj _).2 hbegun, ?_, (List.prefix_append_right_inj _).2 hsent',
    hm.trans hm'⟩
  rw [IdSource.number_append]
  exact Request.stream_append hbytes hbytes'

/-- The start of requests that can be written is the start of their bytes. -/
theorem SentPart.exists_stream (h : SentPart requests d d')
    (hwritable : ∀ r ∈ requests, r.isWritable) :
    ∃ bytes sent taken, Request.stream (d.controller.ids.number requests) = .ok bytes ∧
      sent <+: bytes ∧ Moved sent taken d.link d'.link := by
  obtain ⟨begun, bytes, sent, taken, ⟨rest, rfl⟩, hbytes, hsent, hm⟩ := h
  -- the requests that were not begun have bytes as well
  obtain ⟨bytes', hbytes'⟩ : ∃ bytes', Request.stream
      ((IdSource.after begun.length d.controller.ids).number rest) = .ok bytes' :=
    Request.exists_stream fun p hp ↦
      hwritable _ (List.mem_append_right _ (IdSource.snd_mem_of_mem_number hp))
  refine ⟨bytes ++ bytes', sent, taken, ?_, hsent.trans (List.prefix_append _ _), hm⟩
  rw [IdSource.number_append]
  exact Request.stream_append hbytes hbytes'

end Sent

/-- A program that succeeds writes the frames of the requests, and one that fails the start of
them. -/
structure Sends {α : Type} (requests : List Request) (program : DialogueM α) : Prop where
  of_ok : ∀ {d d' : Dialogue} {a : α}, program d = .ok a d' → Sent requests d d'
  of_error : ∀ {d d' : Dialogue} {e : Error}, program d = .error e d' → SentPart requests d d'

namespace Sends

variable {α β : Type} {requests requests' : List Request}

theorem pure (a : α) : Sends [] (pure a : DialogueM α) where
  of_ok h := by
    cases h
    exact sent_nil rfl (.refl _)
  of_error h := by
    cases h

theorem throw (requests : List Request) (e : Error) :
    Sends requests (throw e : DialogueM α) where
  of_ok h := by
    cases h
  of_error h := by
    cases h
    exact sentPart_nil requests (.refl _)

theorem get : Sends [] (get : DialogueM Dialogue) where
  of_ok h := by
    cases h
    exact sent_nil rfl (.refl _)
  of_error h := by
    cases h

/-- The requests of a sequence are those of its parts. -/
theorem bind {x : DialogueM α} {f : α → DialogueM β} (hx : Sends requests x)
    (hf : ∀ a, Sends requests' (f a)) : Sends (requests ++ requests') (x >>= f) where
  of_ok h := by
    obtain ⟨a, d₁, hx₁, hf₁⟩ := bind_eq_ok_iff.1 h
    exact (hx.of_ok hx₁).trans ((hf a).of_ok hf₁)
  of_error h := by
    rcases bind_eq_error_iff.1 h with hx₁ | ⟨a, d₁, hx₁, hf₁⟩
    · exact (hx.of_error hx₁).append _
    · exact (hx.of_ok hx₁).trans_part ((hf a).of_error hf₁)

/-- What follows a part without requests. -/
theorem after_silent {x : DialogueM α} {f : α → DialogueM β} (hx : Sends [] x)
    (hf : ∀ a, Sends requests (f a)) : Sends requests (x >>= f) :=
  hx.bind hf

/-- What precedes a part without requests. -/
theorem then_silent {x : DialogueM α} {f : α → DialogueM β} (hx : Sends requests x)
    (hf : ∀ a, Sends [] (f a)) : Sends requests (x >>= f) := by
  have := hx.bind hf
  rwa [List.append_nil] at this

theorem ite {c : Prop} [Decidable c] {x y : DialogueM α} (hx : Sends requests x)
    (hy : Sends requests y) : Sends requests (if c then x else y) := by
  split
  · exact hx
  · exact hy

end Sends

theorem sends_note (notice : Notice) : Sends [] (note notice) where
  of_ok h := by
    rw [note_eq_ok_iff] at h
    subst h
    exact sent_nil rfl ((Moved.refl _).note notice)
  of_error h := (note_ne_error.1 h).elim

theorem sends_pass (time : Duration) : Sends [] (pass time) where
  of_ok h := by
    cases h
    exact sent_nil rfl ((Moved.refl _).pass time)
  of_error h := by
    cases h

theorem sends_modify {f : Dialogue → Dialogue} (hlink : ∀ d, (f d).link = d.link)
    (hids : ∀ d, (f d).controller.ids = d.controller.ids) : Sends [] (modify f) where
  of_ok {d d' a} h := by
    cases h
    refine sent_nil (hids d) ?_
    rw [hlink]
    exact .refl _
  of_error h := by
    cases h

/-- An exchange with a reply sent its request. -/
theorem Exchanged.sent {request : Request} {written reply : Bytes} {frame : Frame}
    {d d' : Dialogue} (h : Exchanged request written reply frame d d') : Sent [request] d d' where
  ids_eq := by
    rw [h.controller_eq, Controller.ids_withIds]
    rfl
  moved := by
    obtain ⟨waits, -, hm⟩ := h.moved
    exact ⟨written, _, Request.stream_cons_eq_ok_iff.2
      ⟨written, [], h.frame_eq, rfl, (List.append_nil _).symm⟩, hm⟩

/-- An operation that is one exchange writes one request. -/
theorem sends_ask {α : Type} (request : Request) (decode : Frame → Except Error α) :
    Sends [request] (ask request decode) where
  of_ok h := by
    obtain ⟨written, reply, frame, hx, -⟩ := ask_ok h
    exact hx.sent
  of_error {d d' e} h := by
    simp only [ask, bind_eq_error_iff, ofExcept_eq_error_iff] at h
    obtain h | ⟨frame, _, hexchange, -, rfl⟩ := h
    · obtain ⟨-, ⟨-, hlink⟩ | ⟨written, sent, taken, hwritten, -, hsent, hm⟩⟩ := exchange_error h
      · refine sentPart_nil _ ?_
        rw [hlink]
        exact .refl _
      · exact ⟨[request], written, sent, taken, List.prefix_rfl, Request.stream_cons_eq_ok_iff.2
          ⟨written, [], hwritten, rfl, (List.append_nil _).symm⟩, hsent, hm⟩
    · obtain ⟨written, reply, hx⟩ := exchange_ok hexchange
      obtain ⟨bytes, taken, hbytes, hm⟩ := hx.sent.moved
      exact ⟨[request], bytes, bytes, taken, List.prefix_rfl, hbytes, List.prefix_rfl, hm⟩

/-! ### The requests of the operations -/

theorem sends_ping : Sends [.ping] ping := by
  refine (sends_ask _ _).then_silent fun _ ↦ Sends.after_silent ?_ fun _ ↦ ?_
  · exact sends_modify (fun _ ↦ rfl) fun _ ↦ rfl
  · exact (sends_note _).after_silent fun _ ↦ .pure _

theorem sends_status : Sends [.getStatus] status :=
  Sends.get.after_silent fun _ ↦ (sends_ask _ _).then_silent fun _ ↦
    (sends_note _).after_silent fun _ ↦ .pure _

/-- Configuring a radio sends one request, unless the host knows that there is no such radio. -/
theorem sends_configRx (radio : UInt8) (channel : RxChannel) :
    Sends [.configRx (channel.setup radio)] (configRx radio channel) := by
  refine Sends.get.after_silent fun d ↦
    .ite (Sends.throw _ (.invalidChannel radio d.controller.rxRadios)) ?_
  refine (sends_ask _ _).then_silent fun code ↦ ?_
  split
  · exact .pure _
  · exact (sends_note _).after_silent fun _ ↦ .throw _ _

theorem sends_reset (target : ResetTarget) : Sends [.reset target] (reset target) := by
  refine (sends_ask _ _).then_silent fun code ↦ ?_
  exact .ite ((sends_note _).after_silent fun _ ↦ .throw _ _) (.pure _)

/-- The radios are reset with two requests. -/
theorem sends_resetAll : Sends [.reset .rxAll, .reset .tx] (resetAll false) :=
  (sends_reset _).bind fun _ ↦ (sends_reset _).then_silent fun _ ↦ sends_pass _

/-! ### The numbers of radios -/

/-- The controller knows the same numbers of radios. -/
structure SameRadios (d d' : Dialogue) : Prop where
  rx_eq : d'.controller.rxRadios = d.controller.rxRadios
  tx_eq : d'.controller.txRadios = d.controller.txRadios

instance : IsPreorder Dialogue SameRadios where
  refl _ := ⟨rfl, rfl⟩
  trans _ _ _ h h' := ⟨h'.rx_eq.trans h.rx_eq, h'.tx_eq.trans h.tx_eq⟩

/-- Drawing ids changes no numbers of radios. -/
theorem sameRadios_of_withIds {d d' : Dialogue} {ids : IdSource}
    (h : d'.controller = d.controller.withIds ids) : SameRadios d d' where
  rx_eq := by rw [h, Controller.rxRadios_withIds]
  tx_eq := by rw [h, Controller.txRadios_withIds]

/-- Whatever comes of it, a program that no `ping` is part of leaves the numbers of radios as they
are. -/
theorem kept_sameRadios : Kept SameRadios (fun _ ↦ False) where
  ask request _ _ :=
    { of_ok := fun h ↦ sameRadios_of_withIds (controller_of_ask_ok h)
      of_error := fun h ↦ .inr (sameRadios_of_withIds (controller_of_ask_error h)) }
  note notice :=
    { of_ok := fun h ↦ by
        obtain rfl := note_eq_ok_iff.1 h
        exact ⟨rfl, rfl⟩
      of_error := fun h ↦ (note_ne_error.1 h).elim }
  pass time :=
    { of_ok := fun h ↦ by
        cases h
        exact ⟨rfl, rfl⟩
      of_error := fun h ↦ by cases h }

/-- A receive radio that was configured is one the controller knows of. -/
theorem lt_of_configRx_ok {radio : UInt8} {channel : RxChannel} {d d' : Dialogue}
    (h : configRx radio channel d = .ok () d') : radio < d.controller.rxRadios := by
  obtain ⟨_, _, hget, hguard⟩ := bind_eq_ok_iff.1 h
  obtain ⟨rfl, rfl⟩ := get_eq_ok_iff.1 hget
  split at hguard
  · obtain ⟨_, _, hthrow, -⟩ := bind_eq_ok_iff.1 hguard
    exact (throw_ne_ok.1 hthrow).elim
  · exact UInt8.not_le.1 ‹_›

end DialogueM

end LoraConcentrator
