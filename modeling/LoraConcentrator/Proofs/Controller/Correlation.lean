import LoraConcentrator.Proofs.Controller.Ids

/-!
# Correlation ids

Every exchange draws an id before anything else, so the exchanges of a run use up the ids of the
source one by one, in order, whatever becomes of each. `Attempts` says of a stretch of a run which
exchanges were attempted in it and under which ids. Which requests an operation attempts is known up
to what the device answers (`Controller.Operation.Asks`); an operation that is refused beforehand
attempts none.

What comes back under an id is compared with it or ignored, as the controller is told
(`Attempted.accepts`, `Attempted.refuses`). Main result: `Controller.run_correlates`.
-/

namespace LoraConcentrator

open Link Program

/-- The ids of numbered requests are below 255. -/
theorem IdSource.lt_of_mem_number {source : IdSource} {requests : List Request}
    {p : UInt8 × Request} (h : p ∈ source.number requests) : p.1.toNat < idCount := by
  induction requests generalizing source with
  | nil => cases h
  | cons r requests ih =>
    rcases List.mem_cons.1 h with rfl | h
    · exact source.next_lt
    · exact ih h

namespace DialogueM

/-! ### Attempts -/

/-- Nothing was written and no id was used up. -/
structure Silent (d d' : Dialogue) : Prop where
  ids_eq : d'.controller.ids = d.controller.ids
  moved : ∃ taken, Moved [] taken d.link d'.link

instance : IsPreorder Dialogue Silent where
  refl d := ⟨rfl, [], .refl d.link⟩
  trans _ _ _ := by
    rintro ⟨hids, taken, hm⟩ ⟨hids', taken', hm'⟩
    exact ⟨hids'.trans hids, _, hm.trans hm'⟩

/-- Run from `d`, the program ends in `d'`, well or badly. -/
def EndsIn {α : Type} (program : DialogueM α) (d d' : Dialogue) : Prop :=
  (∃ a, program d = .ok a d') ∨ ∃ e, program d = .error e d'

section EndsIn

variable {d d' : Dialogue}

/-- A program that failed ended where it failed. -/
theorem EndsIn.eq_of_error {α : Type} {program : DialogueM α} {e : Error} {d₁ : Dialogue}
    (h : EndsIn program d d') (hrun : program d = .error e d₁) : d' = d₁ := by
  rcases h with ⟨a, h⟩ | ⟨e', h⟩
  · cases hrun.symm.trans h
  · cases hrun.symm.trans h
    rfl

/-- What is made of the value does not move where a program ends. -/
theorem EndsIn.of_map {α β : Type} {program : DialogueM α} {f : α → β}
    (h : EndsIn (f <$> program) d d') : EndsIn program d d' := by
  rcases hrun : program d with ⟨a, d₁⟩ | ⟨e, d₁⟩
  · rcases h with ⟨b, h⟩ | ⟨e, h⟩
    · cases (map_of_ok f hrun).symm.trans h
      exact .inl ⟨a, hrun⟩
    · cases (map_of_ok f hrun).symm.trans h
  · rw [h.eq_of_error (map_of_error f hrun)]
    exact .inr ⟨e, hrun⟩

end EndsIn

/-- An exchange was attempted under an id. -/
structure Attempted (id : UInt8) (request : Request) (d d' : Dialogue) : Prop where
  endsIn : EndsIn (exchange request) d d'
  id_eq : d.controller.ids.next.1 = id
  ids_eq : d'.controller.ids = d.controller.ids.next.2
  sameRadios : SameRadios d d'
  /-- The frame of the request was written under the id, or the start of it. Of a request that
  cannot be encoded nothing was written. -/
  moved : (∃ e, request.payload = .error e ∧ d'.link = d.link) ∨
    ∃ frame sent taken, request.frame id = .ok frame ∧ sent <+: frame ∧
      Moved sent taken d.link d'.link
  /-- Where ids are checked, a reply that was accepted carries the id that the frame of the request
  was written under. -/
  accepts : d.controller.checksIds → ∀ frame, exchange request d = .ok frame d' →
    frame.header.id = id ∧ ∃ written reply, Exchanged request written reply frame d d'
  /-- Where ids are checked, a reply that would be accepted without the check and carries another id
  is refused. -/
  refuses : d.controller.checksIds → ∀ frame d₁,
    exchange request (d.checking false) = .ok frame d₁ → frame.header.id ≠ id →
      exchange request d = .error (.idMismatch id frame.header.id) d'

/-- The exchanges attempted between two dialogues, with the ids of their requests. -/
inductive Attempts : List (UInt8 × Request) → Dialogue → Dialogue → Prop
  | none {d d' : Dialogue} : Silent d d' → Attempts [] d d'
  | next {id : UInt8} {request : Request} {rest : List (UInt8 × Request)}
    {d d₁ d₂ d' : Dialogue} : Silent d d₁ → Attempted id request d₁ d₂ → Attempts rest d₂ d' →
      Attempts ((id, request) :: rest) d d'

/-- The requests were attempted under the next ids of the controller. -/
structure Tried (requests : List Request) (d d' : Dialogue) : Prop where
  attempts : Attempts (d.controller.ids.number requests) d d'
  ids_eq : d'.controller.ids = IdSource.after requests.length d.controller.ids

section Attempts

variable {d d' d'' : Dialogue} {request : Request}

/-- Silence may come before attempts. -/
theorem Silent.attempts_trans {numbered : List (UInt8 × Request)} (h : Silent d d')
    (h' : Attempts numbered d' d'') : Attempts numbered d d'' := by
  cases h' with
  | none h' => exact .none (IsTrans.trans _ _ _ h h')
  | next h' htried hrest => exact .next (IsTrans.trans _ _ _ h h') htried hrest

/-- Attempts follow attempts. -/
theorem Attempts.append {numbered numbered' : List (UInt8 × Request)} (h : Attempts numbered d d')
    (h' : Attempts numbered' d' d'') : Attempts (numbered ++ numbered') d d'' := by
  induction h with
  | none h => exact h.attempts_trans h'
  | next h htried _ ih => exact .next h htried (ih h')

/-- Where ids are checked, a reply with another id is refused. -/
theorem refuses_of_endsIn (h : EndsIn (exchange request) d d') (hchecks : d.controller.checksIds)
    {frame : Frame} {d₁ : Dialogue} (hx : exchange request (d.checking false) = .ok frame d₁)
    (hid : frame.header.id ≠ d.controller.ids.next.1) :
    exchange request d = .error (.idMismatch d.controller.ids.next.1 frame.header.id) d' := by
  have hrefused := exchange_of_checks hchecks hx
  rw [if_neg hid] at hrefused
  rw [hrefused, h.eq_of_error hrefused]

/-- An exchange with a reply was an attempt under the next id. -/
theorem attempted_of_exchange_ok {frame : Frame} (h : exchange request d = .ok frame d') :
    Attempted d.controller.ids.next.1 request d d' := by
  have hend : EndsIn (exchange request) d d' := .inl ⟨frame, h⟩
  obtain ⟨written, reply, hx⟩ := exchange_ok h
  obtain ⟨waits, -, hm⟩ := hx.moved
  exact
    { endsIn := hend
      id_eq := rfl
      ids_eq := by rw [hx.controller_eq, Controller.ids_withIds]
      sameRadios := sameRadios_of_withIds hx.controller_eq
      moved := .inr ⟨written, written, _, hx.frame_eq, List.prefix_rfl, hm⟩
      accepts := fun hchecks frame' h' ↦ by
        cases h.symm.trans h'
        exact ⟨hx.id_eq hchecks, written, reply, hx⟩
      refuses := fun hchecks _ _ ↦ refuses_of_endsIn hend hchecks }

theorem attempted_of_exchange_error {e : Error} (h : exchange request d = .error e d') :
    Attempted d.controller.ids.next.1 request d d' := by
  have hend : EndsIn (exchange request) d d' := .inr ⟨e, h⟩
  obtain ⟨hcontroller, hmoved⟩ := exchange_error h
  exact
    { endsIn := hend
      id_eq := rfl
      ids_eq := by rw [hcontroller, Controller.ids_withIds]
      sameRadios := sameRadios_of_withIds hcontroller
      moved := hmoved.imp (fun ⟨hpayload, hlink⟩ ↦ ⟨e, hpayload, hlink⟩)
        fun ⟨written, sent, taken, hframe, _, hsent, hm⟩ ↦
          ⟨written, sent, taken, hframe, hsent, hm⟩
      accepts := fun _ _ h' ↦ by cases h.symm.trans h'
      refuses := fun hchecks _ _ ↦ refuses_of_endsIn hend hchecks }

/-- One attempt draws one id. -/
theorem Attempted.tried (h : Attempted d.controller.ids.next.1 request d d') :
    Tried [request] d d' where
  attempts := .next (Std.Refl.refl d) h (.none (Std.Refl.refl d'))
  ids_eq := h.ids_eq

theorem Silent.tried (h : Silent d d') : Tried [] d d' := ⟨.none h, h.ids_eq⟩

/-- Requests that are tried follow others under later ids. -/
theorem Tried.append {requests requests' : List Request} (h : Tried requests d d')
    (h' : Tried requests' d' d'') : Tried (requests ++ requests') d d'' where
  attempts := by
    rw [IdSource.number_append, ← h.ids_eq]
    exact h.attempts.append h'.attempts
  ids_eq := by rw [h'.ids_eq, h.ids_eq, List.length_append, IdSource.after_add]

end Attempts

/-! ### The attempts of programs -/

/-- Whatever comes of it, a program attempts the requests `first`, and then those of `more`, of
which it leaves out the last ones only when it fails. -/
structure Tries {α : Type} (first more : List Request) (program : DialogueM α) : Prop where
  of_ok : ∀ {d d' : Dialogue} {a : α}, program d = .ok a d' → Tried (first ++ more) d d'
  of_error : ∀ {d d' : Dialogue} {e : Error}, program d = .error e d' →
    ∃ tried, tried <+: more ∧ Tried (first ++ tried) d d'

/-- Whatever comes of it, a program attempts nothing. -/
abbrev KeepsSilent {α : Type} (program : DialogueM α) : Prop :=
  Keeps Silent (fun _ ↦ False) program

section Tries

variable {α β : Type} {first more first' more' : List Request}

/-- Asking for something tries one request. -/
theorem tries_ask (request : Request) (decode : Frame → Except Error α) :
    Tries [request] [] (ask request decode) where
  of_ok h := by
    obtain ⟨frame, _, hx, hdecode⟩ := bind_eq_ok_iff.1 h
    obtain ⟨-, rfl⟩ := ofExcept_eq_ok_iff.1 hdecode
    exact (attempted_of_exchange_ok hx).tried
  of_error h := by
    refine ⟨[], List.prefix_rfl, ?_⟩
    rcases bind_eq_error_iff.1 h with hx | ⟨frame, _, hx, hdecode⟩
    · exact (attempted_of_exchange_error hx).tried
    · obtain ⟨-, rfl⟩ := ofExcept_eq_error_iff.1 hdecode
      exact (attempted_of_exchange_ok hx).tried

/-- What follows goes on where the first part ended well. -/
theorem Tries.bind {x : DialogueM α} {f : α → DialogueM β} (hx : Tries first more x)
    (hf : ∀ a, Tries first' more' (f a)) : Tries first (more ++ first' ++ more') (x >>= f) where
  of_ok h := by
    obtain ⟨a, d₁, hx₁, hf₁⟩ := bind_eq_ok_iff.1 h
    have := (hx.of_ok hx₁).append ((hf a).of_ok hf₁)
    simpa only [List.append_assoc] using this
  of_error h := by
    rcases bind_eq_error_iff.1 h with hx₁ | ⟨a, d₁, hx₁, hf₁⟩
    · obtain ⟨tried, htried, hd⟩ := hx.of_error hx₁
      refine ⟨tried, htried.trans ?_, hd⟩
      rw [List.append_assoc]
      exact List.prefix_append _ _
    · obtain ⟨tried, htried, hd⟩ := (hf a).of_error hf₁
      refine ⟨more ++ first' ++ tried, (List.prefix_append_right_inj _).2 htried, ?_⟩
      have := (hx.of_ok hx₁).append hd
      simpa only [List.append_assoc] using this

/-- What follows in silence tries nothing more. -/
theorem Tries.bind_silent {x : DialogueM α} {f : α → DialogueM β} (hx : Tries first more x)
    (hf : ∀ a, KeepsSilent (f a)) : Tries first more (x >>= f) := by
  have hsilent (a : α) : Tries [] [] (f a) :=
    { of_ok := fun h ↦ ((hf a).of_ok h).tried
      of_error := fun h ↦ ⟨[], List.prefix_rfl,
        (((hf a).of_error h).resolve_left not_false).tried⟩ }
  have := hx.bind hsilent
  rwa [List.append_nil, List.append_nil] at this

/-- What is made of the value tries nothing more. -/
theorem Tries.map {x : DialogueM α} (f : α → β) (hx : Tries first more x) :
    Tries first more (f <$> x) := by
  rw [map_eq_bind]
  exact hx.bind_silent fun _ ↦ .pure _

theorem keepsSilent_note (notice : Notice) : KeepsSilent (note notice) where
  of_ok h := by
    obtain rfl := note_eq_ok_iff.1 h
    exact ⟨rfl, [], (Moved.refl _).note notice⟩
  of_error h := (note_ne_error.1 h).elim

theorem keepsSilent_pass (time : Duration) : KeepsSilent (pass time) where
  of_ok h := by
    cases h
    exact ⟨rfl, [], (Moved.refl _).pass time⟩
  of_error h := by
    cases h

theorem keepsSilent_refuse (notice : Notice) (e : Error) :
    KeepsSilent (do note notice; throw e : DialogueM α) :=
  (keepsSilent_note notice).bind fun _ ↦ .throw e

/-- Reading an event tries no request. -/
theorem keepsSilent_receiveFrame : KeepsSilent receiveFrame where
  of_ok h := by
    obtain ⟨hcontroller, -, waits, -, hm⟩ := receiveFrame_ok h
    exact ⟨congrArg _ hcontroller, _, hm⟩
  of_error h := by
    obtain ⟨hcontroller, -, taken, hm⟩ := receiveFrame_error h
    exact .inr ⟨congrArg _ hcontroller, taken, hm⟩

end Tries

/-! ### The attempts of operations -/

theorem tries_ping : Tries [.ping] [] ping := by
  refine (tries_ask _ _).bind_silent fun identity ↦ Keeps.bind ?_ fun _ ↦ ?_
  · constructor
    · intro d d' _ h
      cases h
      exact ⟨rfl, [], .refl _⟩
    · intro d d' _ h
      cases h
  · exact (keepsSilent_note _).bind fun _ ↦ .pure _

theorem tries_status : Tries [.getStatus] [] status := by
  have hask (rxRadios : UInt8) : Tries [.getStatus] [] (do
      let status ← ask .getStatus (DeviceStatus.ofFrame rxRadios)
      note (.statusRead status)
      return status) :=
    (tries_ask _ _).bind_silent fun _ ↦ (keepsSilent_note _).bind fun _ ↦ .pure _
  exact ⟨fun h ↦ (hask _).of_ok h, fun h ↦ (hask _).of_error h⟩

theorem tries_txStatus : Tries [.getTxStatus] [] txStatus :=
  (tries_ask _ _).bind_silent fun _ ↦ .pure _

/-- A `receive` tries one request, however many events it reads. -/
theorem tries_receive (limit : Nat) : Tries [.getRxMessages] [] (receive limit) := by
  have hcollect := keeps_collect keepsSilent_note keepsSilent_receiveFrame limit
  refine (tries_ask _ _).bind_silent fun mailbox ↦ .ite ?_ (hcollect mailbox)
  exact (keepsSilent_note _).bind fun _ ↦ hcollect mailbox

theorem tries_reset (target : ResetTarget) : Tries [.reset target] [] (reset target) :=
  (tries_ask _ _).bind_silent fun _ ↦ .ite (keepsSilent_refuse _ _) (.pure _)

/-- What is reset after the receive radios. -/
def laterResets (withMcu : Bool) : List Request :=
  .reset .tx :: if withMcu then [.reset .mcu] else []

/-- A reset of all radios tries one request more once the first was answered, and one for the device
where it is asked for. -/
theorem tries_resetAll (withMcu : Bool) :
    Tries [.reset .rxAll] (laterResets withMcu) (resetAll withMcu) := by
  have hpass := keepsSilent_pass resetTime
  cases withMcu with
  | false =>
    have htx := (tries_reset .tx).bind_silent fun _ ↦ hpass
    exact (tries_reset .rxAll).bind fun _ ↦ htx
  | true =>
    have hmcu := (tries_reset .mcu).bind_silent fun _ ↦ hpass
    have htx := (tries_reset .tx).bind fun _ ↦ hmcu
    exact (tries_reset .rxAll).bind fun _ ↦ htx

theorem tries_enterBootloader : Tries [.bootloader] [] enterBootloader :=
  (tries_ask _ _).bind_silent fun _ ↦ keepsSilent_note _

theorem tries_writeRegister (radio : UInt8) (address : UInt16) (value : UInt8) :
    Tries [.writeRegister radio address value] [] (writeRegister radio address value) :=
  (tries_ask _ _).bind_silent fun _ ↦ .pure _

theorem tries_setRssiCoefficient (radio : UInt8) (coefficient : Binary.Single) :
    Tries [.setRssiCoefficient radio coefficient] [] (setRssiCoefficient radio coefficient) :=
  (tries_ask _ _).bind_silent fun _ ↦ .ite (.throw _) (.pure _)

section Guarded

variable {d d' : Dialogue}

/-- A program that tries nothing after its first request tried just this one. -/
theorem Tries.tried {α : Type} {requests : List Request} {program : DialogueM α}
    (h : Tries requests [] program) (hend : EndsIn program d d') : Tried requests d d' := by
  rcases hend with ⟨a, hrun⟩ | ⟨e, hrun⟩
  · have := h.of_ok hrun
    rwa [List.append_nil] at this
  · obtain ⟨tried, htried, hd⟩ := h.of_error hrun
    rwa [List.prefix_nil.1 htried, List.append_nil] at hd

/-- A receive radio that the controller does not know of is not asked for anything. -/
theorem tried_configRx {radio : UInt8} {channel : RxChannel}
    (h : EndsIn (configRx radio channel) d d') :
    Tried (if d.controller.rxRadios ≤ radio then [] else [.configRx (channel.setup radio)])
      d d' := by
  by_cases hknown : d.controller.rxRadios ≤ radio
  · have hrefused : configRx radio channel d =
        .error (.invalidChannel radio d.controller.rxRadios) d := by
      unfold configRx
      rw [get_bind, if_pos hknown]
      rfl
    rw [if_pos hknown, h.eq_of_error hrefused]
    exact (Std.Refl.refl d : Silent d d).tried
  · rw [if_neg hknown]
    simp only [EndsIn, configRx, get_bind, if_neg hknown] at h
    refine Tries.tried ((tries_ask _ _).bind_silent fun code ↦ ?_) h
    split
    · exact .pure _
    · exact keepsSilent_refuse _ _

/-- A packet is tried when a radio is known. -/
theorem tried_prepareTx {packet : TxPacket} (h : EndsIn (prepareTx packet) d d') :
    Tried (if d.controller.rxRadios < 1 then [] else [.prepareTx packet.setup]) d d' := by
  by_cases hnone : d.controller.rxRadios < 1
  · have hrefused : prepareTx packet d = .error .noRxRadio d := by
      unfold prepareTx
      rw [get_bind, if_pos hnone]
      rfl
    rw [if_pos hnone, h.eq_of_error hrefused]
    exact (Std.Refl.refl d : Silent d d).tried
  · rw [if_neg hnone]
    simp only [EndsIn, prepareTx, get_bind, if_neg hnone] at h
    refine Tries.tried ((tries_ask _ _).bind_silent fun code ↦ ?_) h
    split
    · exact .pure _
    · exact keepsSilent_refuse _ _

/-- Every turn attempts one exchange. By induction on what bounds the turns. -/
theorem tried_pollTx {interval limit start : Duration}
    (h : EndsIn (pollTx interval limit start) d d') :
    ∃ turns, Tried (List.replicate (turns + 1) .getTxStatus) d d' := by
  induction hbound : d.link.pending using Nat.strongRecOn generalizing d with
  | ind bound ih =>
    rcases hstatus : txStatus d with ⟨status, next⟩ | ⟨e, next⟩
    · have hfirst : Tried [.getTxStatus] d next := tries_txStatus.of_ok hstatus
      rw [EndsIn, pollTx_of_txStatus hstatus] at h
      split at h
      · have hnoted : Silent next
            { next with link := next.link.note (.transmissionFailed status) } :=
          ⟨rfl, [], (Moved.refl _).note _⟩
        obtain ⟨_, h⟩ | ⟨_, h⟩ := h <;> cases h
        exact ⟨0, hfirst.append hnoted.tried⟩
      split at h
      · obtain ⟨_, h⟩ | ⟨_, h⟩ := h <;> cases h
        exact ⟨0, hfirst⟩
      split at h
      · obtain ⟨_, h⟩ | ⟨_, h⟩ := h <;> cases h
        exact ⟨0, hfirst⟩
      split at h
      · rename_i hless
        have hless' : (next.link.pass interval).pending < bound := hbound ▸ hless
        have hpassed : Silent next { next with link := next.link.pass interval } :=
          ⟨rfl, [], (Moved.refl _).pass interval⟩
        obtain ⟨turns, hturns⟩ := ih _ hless' h rfl
        exact ⟨turns + 1, hfirst.append (hpassed.tried.append hturns)⟩
      · obtain ⟨_, h⟩ | ⟨_, h⟩ := h <;> cases h
        exact ⟨0, hfirst⟩
    · have hfirst : Tried [.getTxStatus] d next := tries_txStatus.tried (.inr ⟨e, hstatus⟩)
      have hrun : pollTx interval limit start d = .error e next := by rw [pollTx, hstatus]
      rw [h.eq_of_error hrun]
      exact ⟨0, hfirst⟩

end Guarded

end DialogueM

namespace Controller

open DialogueM

/-- The requests that an operation attempts for a controller that knows of so many receive radios,
whatever the device answers. A radio beyond them is not configured, and nothing is sent without
any. -/
def Operation.Asks (outcome : Except Error Answer) (rxRadios : UInt8) (requests : List Request) :
    Operation → Prop
  | ping => requests = [.ping]
  | status => requests = [.getStatus]
  | txStatus => requests = [.getTxStatus]
  | configRx radio channel =>
    requests = if rxRadios ≤ radio then [] else [.configRx (channel.setup radio)]
  | prepareTx packet => requests = if rxRadios < 1 then [] else [.prepareTx packet.setup]
  | awaitTx _ _ => ∃ turns, requests = List.replicate (turns + 1) .getTxStatus
  | receive _ => requests = [.getRxMessages]
  | reset target => requests = [.reset target]
  | resetAll withMcu => ∃ tried, tried <+: laterResets withMcu ∧
    (outcome.isOk → tried = laterResets withMcu) ∧ requests = .reset .rxAll :: tried
  | enterBootloader => requests = [.bootloader]
  | readRegister radio address => requests = [.readRegister radio address]
  | writeRegister radio address value => requests = [.writeRegister radio address value]
  | setRssiCoefficient radio coefficient => requests = [.setRssiCoefficient radio coefficient]

/-- An operation ends where its program does. -/
theorem endsIn_step (operation : Operation) (d : Dialogue) :
    EndsIn operation.run d (step operation d).2 := by
  unfold step
  rcases hrun : operation.run d with ⟨answer, next⟩ | ⟨e, next⟩
  · exact .inl ⟨answer, hrun⟩
  · exact .inr ⟨e, hrun⟩

/-- An operation tries the requests that it asks for by its outcome. -/
theorem step_tried (operation : Operation) (d : Dialogue) :
    ∃ requests, operation.Asks (step operation d).1 d.controller.rxRadios requests ∧
      Tried requests d (step operation d).2 := by
  have hend := endsIn_step operation d
  cases operation with
  | ping => exact ⟨_, rfl, (tries_ping.map _).tried hend⟩
  | status => exact ⟨_, rfl, (tries_status.map _).tried hend⟩
  | txStatus => exact ⟨_, rfl, (tries_txStatus.map _).tried hend⟩
  | configRx radio channel => exact ⟨_, rfl, tried_configRx hend.of_map⟩
  | prepareTx packet => exact ⟨_, rfl, tried_prepareTx hend.of_map⟩
  | awaitTx interval limit =>
    obtain ⟨turns, hturns⟩ := tried_pollTx hend.of_map
    exact ⟨_, ⟨turns, rfl⟩, hturns⟩
  | receive limit => exact ⟨_, rfl, ((tries_receive limit).map _).tried hend⟩
  | reset target => exact ⟨_, rfl, ((tries_reset target).map _).tried hend⟩
  | resetAll withMcu =>
    have htries := (tries_resetAll withMcu).map fun _ ↦ Answer.done
    rcases hrun : Operation.run (.resetAll withMcu) d with ⟨answer, next⟩ | ⟨e, next⟩
    · rw [step_of_ok hrun]
      exact ⟨_, ⟨_, List.prefix_rfl, fun _ ↦ rfl, rfl⟩, htries.of_ok hrun⟩
    · rw [step_of_error hrun]
      obtain ⟨tried, htried, hd⟩ := htries.of_error hrun
      exact ⟨_, ⟨tried, htried, fun hok ↦ absurd hok Bool.false_ne_true, rfl⟩, hd⟩
  | enterBootloader => exact ⟨_, rfl, (tries_enterBootloader.map _).tried hend⟩
  | readRegister radio address => exact ⟨_, rfl, ((tries_ask _ _).map _).tried hend⟩
  | writeRegister radio address value =>
    exact ⟨_, rfl, ((tries_writeRegister radio address value).map _).tried hend⟩
  | setRssiCoefficient radio coefficient =>
    exact ⟨_, rfl, ((tries_setRssiCoefficient radio coefficient).map _).tried hend⟩

/-- The requests that a run attempts, operation by operation. -/
inductive Asked : List Operation → Dialogue → List Request → Prop
  | nil {d : Dialogue} : Asked [] d []
  | cons {operation : Operation} {operations : List Operation} {d : Dialogue}
    {requests rest : List Request} :
    operation.Asks (step operation d).1 d.controller.rxRadios requests →
      Asked operations (step operation d).2 rest →
        Asked (operation :: operations) d (requests ++ rest)

/-- A run tries the requests of its operations one after the other. -/
theorem run_tried (operations : List Operation) (d : Dialogue) :
    ∃ requests, Asked operations d requests ∧ Tried requests d (run operations d).2 := by
  induction operations generalizing d with
  | nil => exact ⟨[], .nil, (Std.Refl.refl d : Silent d d).tried⟩
  | cons operation operations ih =>
    obtain ⟨requests, hasks, htried⟩ := step_tried operation d
    obtain ⟨rest, hasked, hrest⟩ := ih (step operation d).2
    rw [run_cons]
    exact ⟨requests ++ rest, .cons hasks hasked, htried.append hrest⟩

/-! ### Runs -/

/-- The attempts of a run are numbered from one source, so no id is 255. -/
theorem run_attempts (operations : List Operation) (d : Dialogue) :
    ∃ requests, Asked operations d requests ∧
      Attempts (d.controller.ids.number requests) d (run operations d).2 ∧
        ∀ p ∈ d.controller.ids.number requests, p.1.toNat < 255 := by
  obtain ⟨requests, hasked, htried⟩ := run_tried operations d
  exact ⟨requests, hasked, htried.attempts, fun _ ↦ IdSource.lt_of_mem_number⟩

variable {d d' : Dialogue}

/-- A run after a `receive` is the same whatever the ids of the events were that it read. -/
theorem run_receive_sameButIds {limit : Nat} {mailbox : Mailbox} {packets : List RxPacket}
    {d₁ next : Dialogue} (hask : ask .getRxMessages Mailbox.ofFrame d = .ok mailbox d₁)
    (hreceive : DialogueM.receive limit d = .ok packets next)
    (h : Dialogue.Over (SameButIds fun i ↦ 1 ≤ i ∧ i ≤ mailbox.messages.toNat) d d')
    (operations : List Operation) :
    (run (.receive limit :: operations) d').1 = (run (.receive limit :: operations) d).1 ∧
      Dialogue.Over SameButNotices (run (.receive limit :: operations) d).2
        (run (.receive limit :: operations) d').2 := by
  have hkept : ¬ (1 ≤ 0 ∧ 0 ≤ mailbox.messages.toNat) := by omega
  rcases receive_sameButIds h (fun _ ↦ hkept) limit with
    ⟨_, mailbox', _, _, next', hask', hrun, hrun', hnext⟩ | ⟨e, _, next', hrun, -⟩
  · cases hask.symm.trans hask'
    cases hreceive.symm.trans hrun
    -- what differed was read
    have hsame : Dialogue.Over SameButNotices next next' := by
      obtain ⟨link, hl, rfl⟩ := hnext
      exact ⟨link, hl.sameButNotices (by omega), rfl⟩
    have hstep : step (.receive limit) d = (.ok (.packets packets), next) :=
      step_of_ok (map_of_ok _ hrun)
    have hstep' : step (.receive limit) d' = (.ok (.packets packets), next') :=
      step_of_ok (map_of_ok _ hrun')
    obtain ⟨houtcomes, hend⟩ := run_over Link.hidden_sameButNotices operations hsame
    rw [run_cons, run_cons, hstep, hstep', houtcomes]
    exact ⟨rfl, hend⟩
  · cases hreceive.symm.trans hrun

/-- **Ids correlate requests and replies, and do nothing else.** The exchanges attempted in a run
number their requests by the ids that the controller draws, one after the other, whatever came of
the exchanges before; each of them treats replies as `Attempted` says. Operations that fail leave
the numbers of radios as they are.

Where no ids are checked the outcomes of a run, the controller and the link do not depend on the ids
of the frames to come; any point of a run will do, as the dialogue that it starts from is arbitrary.
The ids of the events that a `receive` reads do not matter even where ids are checked, neither to it
nor to the run after it. -/
theorem run_correlates (operations : List Operation) (d : Dialogue) :
    (∃ requests, Asked operations d requests ∧
      Attempts (d.controller.ids.number requests) d (run operations d).2 ∧
        ∀ p ∈ d.controller.ids.number requests, p.1.toNat < 255) ∧
    (∀ operation e next, step operation d = (.error e, next) → SameRadios d next) ∧
    (¬ d.controller.checksIds → ∀ d', Dialogue.Over (SameButIds anyId) d d' →
      (run operations d').1 = (run operations d).1 ∧
        Dialogue.Over (SameButIds anyId) (run operations d).2 (run operations d').2) ∧
    (∀ limit mailbox packets d₁ next, ask .getRxMessages Mailbox.ofFrame d = .ok mailbox d₁ →
      DialogueM.receive limit d = .ok packets next →
        ∀ d', Dialogue.Over (SameButIds fun i ↦ 1 ≤ i ∧ i ≤ mailbox.messages.toNat) d d' →
          (run (.receive limit :: operations) d').1 = (run (.receive limit :: operations) d).1 ∧
            Dialogue.Over SameButNotices (run (.receive limit :: operations) d).2
              (run (.receive limit :: operations) d').2) ∧
    (∀ limit e next, DialogueM.receive limit d = .error e next →
      ∀ d', Dialogue.Over (SameButIds (1 ≤ ·)) d d' →
        ∃ next', DialogueM.receive limit d' = .error e next' ∧
          Dialogue.Over (SameButIds anyId) next next') := by
  refine ⟨run_attempts operations d, fun operation e next hstep ↦ ?_, fun hunchecked d' hd ↦ ?_,
    fun limit mailbox packets d₁ next hask hreceive d' hd ↦
      run_receive_sameButIds hask hreceive hd operations, fun limit e next hreceive d' hd ↦ ?_⟩
  · rcases hrun : operation.run d with ⟨answer, d₁⟩ | ⟨e₁, d₁⟩
    · cases (step_of_ok hrun).symm.trans hstep
    · cases (step_of_error hrun).symm.trans hstep
      exact sameRadios_of_run_error hrun
  · obtain ⟨houtcomes, hend⟩ := run_hidden hidden_alikeUnchecked operations ⟨hunchecked, hd⟩
    exact ⟨houtcomes, hend.alike⟩
  · rcases receive_sameButIds hd (fun _ ↦ Nat.not_succ_le_zero 0) limit with
      ⟨_, _, _, _, _, -, hrun, -⟩ | ⟨e', _, next', hrun, hrun', hnext⟩
    · cases hreceive.symm.trans hrun
    · cases hreceive.symm.trans hrun
      exact ⟨next', hrun', over_anyId hnext⟩

/-- A device that announces two messages and sends them, in frames with the given ids. -/
def mailAs (checks : Bool) (ack first second : UInt8) : Dialogue where
  controller := { checksIds := checks }
  link := { incoming := ((ack :: announcement) ++ (first :: event) ++ (second :: event)).map .byte }
where
  announcement : Bytes := [0, 5, 0x45, 2, 0, 26, 0, 0]
  event : Bytes := [0, 13, 0x50, 0, 0, 0, 0, 1, 0, 0, 0, 0, 5, 0xC0, 1, 0xAA]

/-- Two mails with other ids agree up to the ids that are free. -/
theorem over_mailAs {free : Nat → Prop} (checks : Bool) (ids ids' : UInt8 × UInt8 × UInt8)
    (hack : ¬ free 0 → ids'.1 = ids.1) (hfirst : ¬ free 1 → ids'.2.1 = ids.2.1)
    (hsecond : ¬ free 2 → ids'.2.2 = ids.2.2) :
    Dialogue.Over (SameButIds free) (mailAs checks ids.1 ids.2.1 ids.2.2)
      (mailAs checks ids'.1 ids'.2.1 ids'.2.2) := by
  have hannouncement : Link.FrameTail (mailAs.announcement.map .byte) := .whole rfl (by decide)
  have hevent : Link.FrameTail (mailAs.event.map .byte) := .whole rfl (by decide)
  refine ⟨(mailAs checks ids'.1 ids'.2.1 ids'.2.2).link, ?_, rfl⟩
  refine ⟨(mailAs checks ids'.1 ids'.2.1 ids'.2.2).link.incoming, [], [], rfl, ?_⟩
  exact .frame hack hannouncement (.frame hfirst hevent (.frame hsecond hevent (.same _ [])))

/-- A controller that checks no ids does not see three other ids, and one that does not those of the
events; the id of the reply it does see. -/
theorem run_correlates_mailAs :
    ¬ (mailAs false 1 2 3).controller.checksIds ∧
      (run [.receive 2, .ping] (mailAs false 7 8 9)).1 =
        (run [.receive 2, .ping] (mailAs false 1 2 3)).1 ∧
      (run [.receive 2, .ping] (mailAs true 0x40 8 9)).1 =
        (run [.receive 2, .ping] (mailAs true 0x40 2 3)).1 ∧
      (run [.receive 2] (mailAs true 0x41 2 3)).1 = [.error (.idMismatch 0x40 0x41)] := by
  have hunchecked : ¬ (mailAs false 1 2 3).controller.checksIds := by decide
  obtain ⟨-, -, hignored, -⟩ := run_correlates [.receive 2, .ping] (mailAs false 1 2 3)
  have hany : Dialogue.Over (SameButIds anyId) (mailAs false 1 2 3) (mailAs false 7 8 9) :=
    over_mailAs false (1, 2, 3) (7, 8, 9) (absurd trivial) (absurd trivial) (absurd trivial)
  refine ⟨hunchecked, (hignored hunchecked _ hany).1, ?_, by decide +kernel⟩
  obtain ⟨-, -, -, hevents, -⟩ := run_correlates [.ping] (mailAs true 0x40 2 3)
  have hannounced : (match ask .getRxMessages Mailbox.ofFrame (mailAs true 0x40 2 3) with
      | .ok mailbox _ => some mailbox.messages
      | .error _ _ => none) = some 2 := by decide +kernel
  have hreceived : (match DialogueM.receive 2 (mailAs true 0x40 2 3) with
      | .ok _ _ => true
      | .error _ _ => false) = true := by decide +kernel
  rcases hask : ask .getRxMessages Mailbox.ofFrame (mailAs true 0x40 2 3) with
    ⟨mailbox, d₁⟩ | ⟨e, d₁⟩
  · rcases hrun : DialogueM.receive 2 (mailAs true 0x40 2 3) with ⟨packets, next⟩ | ⟨e, next⟩
    · rw [hask] at hannounced
      have hcount : mailbox.messages.toNat = 2 := by rw [Option.some.inj hannounced]; rfl
      have hbetween : Dialogue.Over (SameButIds fun i ↦ 1 ≤ i ∧ i ≤ mailbox.messages.toNat)
          (mailAs true 0x40 2 3) (mailAs true 0x40 8 9) :=
        over_mailAs true (0x40, 2, 3) (0x40, 8, 9) (fun _ ↦ rfl)
          (fun h ↦ absurd (by omega) h) fun h ↦ absurd (by omega) h
      exact (hevents 2 mailbox packets d₁ next hask hrun _ hbetween).1
    · rw [hrun] at hreceived
      cases hreceived
  · rw [hask] at hannounced
    cases hannounced

end Controller

end LoraConcentrator
