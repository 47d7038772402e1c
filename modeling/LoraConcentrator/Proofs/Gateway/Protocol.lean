import LoraConcentrator.Proofs.Gateway.Radio1Guard
import LoraConcentrator.Proofs.Gateway.Steps

/-!
# The protocol that opens a session

A program follows steps when it ends well with all of them passed, and else at the first of them
that failed, with the error of that step (`Plan.Follows`). The steps of a sequence are those of its
parts one after the other (`Plan.Follows.bind`), so the steps of the bring-up are read off its
definition; only the first exchange stands apart, since the rest of the plan depends on it.

Main statement: a gateway starts exactly when all steps of its plan pass, and otherwise reports the
error of the step that failed and writes nothing after it; between the acknowledgement of the last
reset and the request after it the clock moves by half a second (`Gateway.startAttached_protocol`).
-/

namespace LoraConcentrator

open Link Program

namespace Plan

open DialogueM

variable {plan : Plan} {steps steps' : List Step} {step : Step} {d d' d'' : Dialogue} {e : Error}

/-! ### Programs that follow steps -/

/-- From every dialogue that knows the radios of the plan, the program ends well when its steps
pass, and else at the first of them that fails. -/
structure Follows {α : Type} (plan : Plan) (steps : List Step) (program : DialogueM α) : Prop where
  of_ok : ∀ {d d' : Dialogue} {a : α}, d.controller.rxRadios = plan.identity.rxRadios →
    program d = .ok a d' →
      plan.Passes steps d d' ∧ d'.controller.rxRadios = plan.identity.rxRadios
  of_error : ∀ {d d' : Dialogue} {e : Error}, d.controller.rxRadios = plan.identity.rxRadios →
    program d = .error e d' → plan.StopsIn steps e d d'

namespace Follows

variable {α β : Type} {program : DialogueM α}

theorem pure (a : α) : Follows plan [] (pure a : DialogueM α) where
  of_ok hradios h := by
    obtain ⟨-, rfl⟩ := pure_eq_ok_iff.1 h
    exact ⟨.nil (Std.Refl.refl _), hradios⟩
  of_error _ h := (pure_ne_error.1 h).elim

theorem note (notice : Notice) : Follows plan [] (note notice) where
  of_ok {d d' _} hradios h := by
    obtain rfl := note_eq_ok_iff.1 h
    exact ⟨.nil (quiet_note d notice), hradios⟩
  of_error _ h := (note_ne_error.1 h).elim

/-- The steps of a sequence are those of its parts. -/
theorem bind {x : DialogueM α} {f : α → DialogueM β} (hx : Follows plan steps x)
    (hf : ∀ a, Follows plan steps' (f a)) : Follows plan (steps ++ steps') (x >>= f) where
  of_ok hradios h := by
    obtain ⟨a, d₁, hxd, hfd⟩ := bind_eq_ok_iff.1 h
    obtain ⟨hpasses, hradios₁⟩ := hx.of_ok hradios hxd
    obtain ⟨hpasses', hradios'⟩ := (hf a).of_ok hradios₁ hfd
    exact ⟨hpasses.trans hpasses', hradios'⟩
  of_error hradios h := by
    rcases bind_eq_error_iff.1 h with hxd | ⟨a, d₁, hxd, hfd⟩
    · exact (hx.of_error hradios hxd).append _
    · obtain ⟨hpasses, hradios₁⟩ := hx.of_ok hradios hxd
      exact hpasses.trans_stopsIn ((hf a).of_error hradios₁ hfd)

/-- A program that looks up the number of receive radios finds that of the plan. -/
theorem of_get {program : Dialogue → DialogueM α}
    (h : ∀ d : Dialogue, d.controller.rxRadios = plan.identity.rxRadios →
      Follows plan steps (program d)) :
    Follows plan steps (get >>= program) where
  of_ok hradios hrun := by
    rw [get_bind] at hrun
    exact (h _ hradios).of_ok hradios hrun
  of_error hradios hrun := by
    rw [get_bind] at hrun
    exact (h _ hradios).of_error hradios hrun

/-- A step that does nothing but pass comes first. -/
theorem of_stepPasses (hstep : ∀ d, plan.StepPasses step d d) (h : Follows plan steps program) :
    Follows plan (step :: steps) program where
  of_ok hradios hrun := by
    obtain ⟨hpasses, hradios'⟩ := h.of_ok hradios hrun
    exact ⟨.cons (Std.Refl.refl _) (hstep _) hpasses, hradios'⟩
  of_error hradios hrun :=
    .later (Std.Refl.refl _) (hstep _) (h.of_error hradios hrun)

/-- A step fails before any other. -/
theorem throw (hstep : ∀ d, plan.StepFails step e d d) (steps : List Step) :
    Follows plan (step :: steps) (throw e : DialogueM α) where
  of_ok _ h := (throw_ne_ok.1 h).elim
  of_error _ h := by
    obtain ⟨rfl, rfl⟩ := throw_eq_error_iff.1 h
    exact (hstep _).stopsIn (Std.Refl.refl _) steps

/-- The same with a notice of it. -/
theorem refuse (hstep : ∀ d, plan.StepFails step e d d) (notice : Notice) (steps : List Step) :
    Follows plan (step :: steps) (do DialogueM.note notice; MonadExcept.throw e : DialogueM α) :=
  (note notice).bind fun _ ↦ throw hstep steps

end Follows

/-! ### Exchanges -/

section Exchanges

variable {α : Type} {request : Request} {decode : Frame → Except Error α}

/-- Asking in vain stops at the exchange: without a reply, or with one that is rejected. -/
theorem stopsIn_of_ask_error
    (hdecode : ∀ {frame e}, decode frame = .error e →
      request.Rejects plan.identity.rxRadios frame e)
    (h : ask request decode d = .error e d') (steps : List Step) :
    plan.StopsIn (.ask request :: steps) e d d' := by
  simp only [ask, bind_eq_error_iff, ofExcept_eq_error_iff] at h
  obtain h | ⟨frame, _, hexchange, hframe, rfl⟩ := h
  · exact StepFails.stopsIn (.unanswered h) (Std.Refl.refl d') steps
  · obtain ⟨written, reply, hx⟩ := exchange_ok hexchange
    exact StepFails.stopsIn (.rejected hexchange hx (hdecode hframe)) (Std.Refl.refl d') steps

/-- Asking with success passes the exchange. -/
theorem stepPasses_of_ask_ok {a : α}
    (hdecode : ∀ {frame}, decode frame = .ok a → request.Accepts plan.identity.rxRadios frame)
    (h : ask request decode d = .ok a d') : plan.StepPasses (.ask request) d d' := by
  simp only [ask, bind_eq_ok_iff, ofExcept_eq_ok_iff] at h
  obtain ⟨frame, _, hexchange, hframe, rfl⟩ := h
  obtain ⟨written, reply, hx⟩ := exchange_ok hexchange
  exact .ask hexchange hx (hdecode hframe)

/-- No answer but that of the first request tells numbers of radios. -/
theorem rxRadios_of_ask_ok {a : α} (h : ask request decode d = .ok a d') :
    d'.controller.rxRadios = d.controller.rxRadios := by
  rw [controller_of_ask_ok h, Controller.rxRadios_withIds]

/-- An exchange whose reader accepts and rejects as the protocol does. -/
theorem follows_ask
    (hok : ∀ {frame a}, decode frame = .ok a → request.Accepts plan.identity.rxRadios frame)
    (herror : ∀ {frame e}, decode frame = .error e →
      request.Rejects plan.identity.rxRadios frame e) :
    Follows plan [.ask request] (ask request decode) where
  of_ok hradios h :=
    ⟨(stepPasses_of_ask_ok hok h).passes (Std.Refl.refl _), (rxRadios_of_ask_ok h).trans hradios⟩
  of_error _ h := stopsIn_of_ask_error herror h []

/-- An exchange whose status byte is judged after it was read. -/
theorem follows_judged {judge : UInt8 → DialogueM Unit}
    (hbytes : request.replyBytes plan.identity.rxRadios = 1)
    (hpass : ∀ code, request.refusal? code = none → Follows plan [] (judge code))
    (hrefuse : ∀ code refusal, request.refusal? code = some refusal →
      ∃ notice, judge code = (do note notice; throw (.refused refusal))) :
    Follows plan [.ask request] (ask request (statusByte request.reply) >>= judge) where
  of_ok {d d' u} hradios h := by
    obtain ⟨code, d₁, hask, hjudge⟩ := bind_eq_ok_iff.1 h
    have hradios₁ := (rxRadios_of_ask_ok hask).trans hradios
    rcases hcode : request.refusal? code with - | refusal
    · obtain ⟨hrest, hradios'⟩ := (hpass code hcode).of_ok hradios₁ hjudge
      have hstep : plan.StepPasses (.ask request) d d₁ := by
        refine stepPasses_of_ask_ok (fun hread ↦ ?_) hask
        obtain ⟨htag, hle, rfl⟩ := Request.of_statusByte hbytes hread
        exact ⟨htag, hle, hcode⟩
      exact ⟨.cons (Std.Refl.refl d) hstep hrest, hradios'⟩
    · obtain ⟨notice, hnotice⟩ := hrefuse code refusal hcode
      rw [hnotice] at hjudge
      obtain ⟨_, _, -, hthrow⟩ := bind_eq_ok_iff.1 hjudge
      exact (throw_ne_ok.1 hthrow).elim
  of_error {d d' e} hradios h := by
    rcases bind_eq_error_iff.1 h with hask | ⟨code, d₁, hask, hjudge⟩
    · exact stopsIn_of_ask_error (Request.rejects_of_statusByte hbytes) hask []
    have hradios₁ := (rxRadios_of_ask_ok hask).trans hradios
    simp only [ask, bind_eq_ok_iff, ofExcept_eq_ok_iff] at hask
    obtain ⟨frame, _, hexchange, hread, rfl⟩ := hask
    obtain ⟨written, reply, hx⟩ := exchange_ok hexchange
    obtain ⟨htag, hle, hhead⟩ := Request.of_statusByte hbytes hread
    rcases hcode : request.refusal? code with - | refusal
    · have hstep : plan.StepPasses (.ask request) d d₁ :=
        .ask hexchange hx ⟨htag, hle, hhead ▸ hcode⟩
      exact .later (Std.Refl.refl d) hstep ((hpass code hcode).of_error hradios₁ hjudge)
    · obtain ⟨notice, hnotice⟩ := hrefuse code refusal hcode
      rw [hnotice] at hjudge
      simp only [bind_eq_error_iff, note_ne_error, note_eq_ok_iff, throw_eq_error_iff,
        false_or] at hjudge
      obtain ⟨_, _, rfl, rfl, rfl⟩ := hjudge
      have hrejects : request.Rejects plan.identity.rxRadios frame (.refused refusal) :=
        .refusal htag hle (hhead ▸ hcode)
      exact StepFails.stopsIn (.rejected hexchange hx hrejects) (quiet_note d₁ notice) []

end Exchanges

/-! ### The parts of the bring-up -/

/-- Reading the status is one exchange. -/
theorem follows_status : Follows plan [.ask .getStatus] status := by
  refine Follows.of_get fun d hradios ↦ ?_
  rw [hradios]
  refine (follows_ask Request.accepts_of_status Request.rejects_of_status).bind fun status ↦ ?_
  exact (Follows.note (.statusRead status)).bind fun _ ↦ .pure status

theorem follows_reset (target : ResetTarget) :
    Follows plan [.ask (.reset target)] (reset target) := by
  refine follows_judged rfl (fun code hcode ↦ ?_) fun code refusal hcode ↦ ?_
  · have hok : code = statusOk := by
      by_contra hne
      rw [Request.refusal?, if_neg hne] at hcode
      cases hcode
    rw [if_neg (fun h ↦ h hok)]
    exact .pure ()
  · rw [Request.refusal?] at hcode
    split at hcode
    · cases hcode
    · cases hcode
      exact ⟨.resetFailed target code, if_pos ‹_›⟩

/-- A radio is configured once it is known to be there. -/
theorem follows_configRx (radio : Fin rxChannelCount) (channel : RxChannel) :
    Follows plan [.known radio, .ask (.configRx (channel.setup (UInt8.ofNat radio)))]
      (configRx (UInt8.ofNat radio) channel) := by
  have hradio : (UInt8.ofNat radio).toNat = radio := by
    rw [UInt8.toNat_ofNat', Nat.mod_eq_of_lt (Nat.lt_trans radio.isLt (by decide))]
  refine Follows.of_get fun d hradios ↦ ?_
  rw [hradios]
  dsimp only
  split
  · rename_i hle
    rw [UInt8.le_iff_toNat_le, hradio] at hle
    exact Follows.throw (fun _ ↦ .known hle) _
  · rename_i hlt
    rw [UInt8.le_iff_toNat_le, hradio] at hlt
    refine Follows.of_stepPasses (fun _ ↦ .known (Nat.lt_of_not_le hlt)) ?_
    refine follows_judged rfl (fun code hcode ↦ ?_) fun code refusal hcode ↦ ?_
    · have hok : code = statusOk := by
        by_contra hne
        rw [Request.refusal?, if_neg hne] at hcode
        cases hcode
      rw [ConfigRxStatus.ofCode_eq_done_iff.2 hok]
      exact .pure ()
    · rw [Request.refusal?] at hcode
      split at hcode
      · cases hcode
      rename_i hne
      cases hcode
      refine ⟨.configRxFailed (UInt8.ofNat radio) (ConfigRxStatus.ofCode code), ?_⟩
      split
      · exact absurd (ConfigRxStatus.ofCode_eq_done_iff.1 ‹_›) hne
      · rfl

/-- The check is the step that compares the firmware. -/
theorem follows_checkFirmware : Follows plan [.firmware] (checkFirmware plan.identity) := by
  unfold checkFirmware
  split
  · exact Follows.refuse (fun _ ↦ .firmware ‹_›) _ []
  · rename_i hsame
    refine Follows.of_stepPasses (fun _ ↦ .firmware (not_not.1 hsame)) ?_
    exact (Follows.note _).bind fun _ ↦ .note _

/-- A radio whose channel is enabled is checked and configured. -/
theorem follows_configureRadio {radio : Fin rxChannelCount}
    (h : plan.channels[radio].enabled) :
    Follows plan (plan.radioSteps radio)
      (configureRadio plan.radio1First plan.channels radio) := by
  unfold configureRadio
  rw [if_pos h]
  split
  · rename_i hguard
    exact Follows.refuse (fun _ ↦ .radio1 hguard.1 hguard.2) _ _
  · rename_i hguard
    have henabled (hfirst : plan.radio1First) : plan.channels[1].enabled :=
      by_contra fun hdisabled ↦ hguard ⟨hfirst, hdisabled⟩
    refine Follows.of_stepPasses (fun _ ↦ .radio1 henabled) ?_
    exact (Follows.note _).bind fun _ ↦ follows_configRx radio _

/-- Radios are configured in order, those whose channels are disabled left out. -/
theorem follows_configureRadios (radios : List (Fin rxChannelCount)) :
    Follows plan ((enabledRadios plan.channels radios).flatMap plan.radioSteps)
      (configureRadios plan.radio1First plan.channels radios) := by
  induction radios with
  | nil => exact .pure ()
  | cons radio radios ih =>
    unfold configureRadios
    by_cases h : plan.channels[radio].enabled
    · rw [enabledRadios_cons_of_enabled h, List.flatMap_cons]
      exact (follows_configureRadio h).bind fun _ ↦ ih
    · rw [enabledRadios_cons_of_disabled h, configureRadio_of_disabled h]
      exact (Follows.pure ()).bind fun _ ↦ ih

/-- A device that says who it is has answered the first request in good order. -/
theorem passes_of_ping_ok (plan : Plan) (h : ping d = .ok plan.identity d') :
    plan.Passes greetSteps d d' ∧ d'.controller.rxRadios = plan.identity.rxRadios := by
  refine ⟨?_, (ping_ok h).2⟩
  obtain ⟨identity, d₁, hask, h⟩ := bind_eq_ok_iff.1 h
  obtain ⟨_, _, hmodify, h⟩ := bind_eq_ok_iff.1 h
  obtain ⟨_, d₂, hnote, h⟩ := bind_eq_ok_iff.1 h
  obtain ⟨rfl, rfl⟩ := pure_eq_ok_iff.1 h
  obtain rfl := note_eq_ok_iff.1 hnote
  cases hmodify
  have hstep : plan.StepPasses (.ask .ping) d d₁ :=
    stepPasses_of_ask_ok Request.accepts_of_identity hask
  have hlearn : plan.StepPasses .learn d₁ (plan.learned d₁) := .learn
  exact .cons (Std.Refl.refl d) hstep (hlearn.passes (quiet_note (plan.learned d₁) _))

/-- What is wrong with the first reply does not depend on what the device says of itself. -/
theorem stopsIn_of_ping_error (h : ping d = .error e d') (plan : Plan) :
    plan.StopsIn greetSteps e d d' := by
  obtain hask | ⟨identity, d₁, -, hrest⟩ := bind_eq_error_iff.1 h
  · exact stopsIn_of_ask_error Request.rejects_of_identity hask [.learn]
  · obtain hmodify | ⟨_, d₂, -, hrest⟩ := bind_eq_error_iff.1 hrest
    · cases hmodify
    · obtain hnote | ⟨_, d₃, -, hpure⟩ := bind_eq_error_iff.1 hrest
      · exact (note_ne_error.1 hnote).elim
      · exact (pure_ne_error.1 hpure).elim

/-! ### The bring-up -/

/-- The part of the bring-up until the radios are reset. -/
def resetBoard : DialogueM Identity := do
  let identity ← ping
  checkFirmware identity
  reset .rxAll
  reset .tx
  return identity

/-- The requests of that part. -/
def resetRequests : List Request := [.ping, .reset .rxAll, .reset .tx]

/-- The part of the bring-up once the radios had their time. -/
def attend (radio1First : Bool) (channels : RxChannels) (identity : Identity) :
    DialogueM Unit := do
  let _ ← status
  configureRadios radio1First channels (radioOrder radio1First identity.rxRadios.toNat)

variable {radio1First : Bool} {channels : RxChannels} {identity : Identity}

/-- The radios are given time between the two parts. -/
theorem bringUp_eq (radio1First : Bool) (channels : RxChannels) :
    bringUp radio1First channels = (do
      let identity ← resetBoard
      pass resetTime
      attend radio1First channels identity) := by
  unfold bringUp meet resetAll resetBoard attend
  simp only [bind_assoc, pure_bind, Bool.false_eq_true, if_false]

theorem sends_resetBoard : Sends resetRequests resetBoard :=
  sends_ping.bind fun _ ↦ (sends_checkFirmware _).after_silent fun _ ↦
    (sends_reset .rxAll).bind fun _ ↦ (sends_reset .tx).then_silent fun _ ↦ .pure _

/-- The second part asks for the status and configures the radios. -/
theorem sends_attend :
    Sends (.getStatus :: (mk radio1First channels identity).radios.map (configRequest channels))
      (attend radio1First channels identity) :=
  sends_status.bind fun _ ↦ sends_configureRadios

/-- Once a device said who it is, the first part of the bring-up follows its steps. -/
theorem follows_reset_of_ping :
    Follows plan [.firmware, .ask (.reset .rxAll), .ask (.reset .tx)] (do
      checkFirmware plan.identity
      reset .rxAll
      reset .tx
      return plan.identity) :=
  follows_checkFirmware.bind fun _ ↦ (follows_reset .rxAll).bind fun _ ↦
    (follows_reset .tx).bind fun _ ↦ .pure plan.identity

/-- The second part follows the steps of the plan. -/
theorem follows_attend (plan : Plan) :
    Follows plan plan.attendSteps (attend plan.radio1First plan.channels plan.identity) :=
  follows_status.bind fun _ ↦ follows_configureRadios _

/-- A board whose radios are reset said who it is. -/
theorem passes_of_resetBoard_ok (plan : Plan) (h : resetBoard d = .ok plan.identity d') :
    d.link.Reports plan.identity ∧ plan.Passes resetSteps d d' ∧
      d'.controller.rxRadios = plan.identity.rxRadios := by
  obtain ⟨identity, d₁, hping, hrest⟩ := bind_eq_ok_iff.1 h
  obtain rfl : plan.identity = identity := by
    obtain ⟨_, _, -, hrest⟩ := bind_eq_ok_iff.1 hrest
    obtain ⟨_, _, -, hrest⟩ := bind_eq_ok_iff.1 hrest
    obtain ⟨_, _, -, hrest⟩ := bind_eq_ok_iff.1 hrest
    exact (pure_eq_ok_iff.1 hrest).1
  obtain ⟨hgreets, hradios⟩ := plan.passes_of_ping_ok hping
  obtain ⟨hresets, hradios'⟩ := follows_reset_of_ping.of_ok hradios hrest
  exact ⟨(ping_ok hping).1, hgreets.trans hresets, hradios'⟩

/-- A board whose radios are not reset stopped at some step, which is one of the first or comes
after the device said who it is. -/
theorem stopsIn_of_resetBoard_error (h : resetBoard d = .error e d') :
    (∀ plan : Plan, plan.StopsIn greetSteps e d d') ∨
      ∃ identity, d.link.Reports identity ∧
        ∀ plan : Plan, plan.identity = identity → plan.StopsIn resetSteps e d d' := by
  rcases bind_eq_error_iff.1 h with hping | ⟨identity, d₁, hping, hrest⟩
  · exact .inl (stopsIn_of_ping_error hping)
  · refine .inr ⟨identity, (ping_ok hping).1, ?_⟩
    rintro plan rfl
    obtain ⟨hgreets, hradios⟩ := plan.passes_of_ping_ok hping
    exact hgreets.trans_stopsIn (follows_reset_of_ping.of_error hradios hrest)

/-- The dialogue after the time that radios are given. -/
def rested (d : Dialogue) : Dialogue := { d with link := d.link.pass resetTime }

/-- The radios are given time in silence. -/
theorem sent_rested (d : Dialogue) : Sent [] d (rested d) := (sends_pass resetTime).of_ok rfl

/-- Once the radios are reset the second part decides. -/
theorem bringUp_of_resetBoard_ok (h : resetBoard d = .ok identity d') :
    bringUp radio1First channels d = attend radio1First channels identity (rested d') := by
  rw [bringUp_eq, bind_of_ok h]
  rfl

/-- A board whose radios are not reset does not come up. -/
theorem bringUp_of_resetBoard_error (h : resetBoard d = .error e d') :
    bringUp radio1First channels d = .error e d' := by
  rw [bringUp_eq, bind_of_error h]

/-- After the time that they are given all steps so far have passed. -/
theorem passes_rested (h : plan.Passes resetSteps d d') :
    plan.Passes (resetSteps ++ [.settle]) d (rested d') :=
  h.trans (StepPasses.settle.passes (Std.Refl.refl _))

/-- A board that comes up said who it is and passed all steps. -/
theorem passes_of_bringUp_ok (h : bringUp radio1First channels d = .ok () d') :
    ∃ identity acked, resetBoard d = .ok identity acked ∧ d.link.Reports identity ∧
      (mk radio1First channels identity).Passes (mk radio1First channels identity).attendSteps
        (rested acked) d' ∧
      (mk radio1First channels identity).Passes (mk radio1First channels identity).steps d d' ∧
        Sent (mk radio1First channels identity).requests d d' := by
  rcases hreset : resetBoard d with ⟨identity, acked⟩ | ⟨e, failed⟩
  · rw [bringUp_of_resetBoard_ok hreset] at h
    obtain ⟨hreports, hresets, hradios⟩ :=
      (mk radio1First channels identity).passes_of_resetBoard_ok hreset
    obtain ⟨hattends, -⟩ :=
      (mk radio1First channels identity).follows_attend.of_ok (d := rested acked) hradios h
    have hsettles := passes_rested hresets
    refine ⟨identity, acked, rfl, hreports, hattends, ?_, ?_⟩
    · have hsteps := hsettles.trans hattends
      rwa [List.append_assoc] at hsteps
    · exact (sends_resetBoard.of_ok hreset).trans
        ((sent_rested acked).trans (sends_attend.of_ok h))
  · rw [bringUp_of_resetBoard_error hreset] at h
    cases h

/-- A board that does not come up stopped at some step, which is one of the first or comes after the
device said who it is. -/
theorem stopsIn_of_bringUp_error (h : bringUp radio1First channels d = .error e d') :
    ∃ identity,
      ((∀ plan : Plan, plan.StopsIn greetSteps e d d') ∨ d.link.Reports identity) ∧
      (mk radio1First channels identity).StopsIn (mk radio1First channels identity).steps e d d' ∧
        SentPart (mk radio1First channels identity).requests d d' ∧
      (SentPart resetRequests d d' ∨ ∃ acked, resetBoard d = .ok identity acked ∧
        (mk radio1First channels identity).StopsIn (mk radio1First channels identity).attendSteps e
          (rested acked) d') := by
  rcases hreset : resetBoard d with ⟨identity, acked⟩ | ⟨e', failed⟩
  · rw [bringUp_of_resetBoard_ok hreset] at h
    obtain ⟨hreports, hresets, hradios⟩ :=
      (mk radio1First channels identity).passes_of_resetBoard_ok hreset
    have hattends :=
      (mk radio1First channels identity).follows_attend.of_error (d := rested acked) hradios h
    have hsent := (sends_resetBoard.of_ok hreset).trans_part
      ((sent_rested acked).trans_part (sends_attend.of_error h))
    have hsteps := (passes_rested hresets).trans_stopsIn hattends
    rw [List.append_assoc] at hsteps
    exact ⟨identity, .inr hreports, hsteps, hsent, .inr ⟨acked, rfl, hattends⟩⟩
  · rw [bringUp_of_resetBoard_error hreset] at h
    cases h
    have hsent := sends_resetBoard.of_error hreset
    rcases stopsIn_of_resetBoard_error hreset with hstops | ⟨identity, hreports, hstops⟩
    · exact ⟨⟨(0, 0, 0), "", 0, 0⟩, .inl hstops, ((hstops _).append _).append _, hsent.append _,
        .inl hsent⟩
    · exact ⟨identity, .inr hreports, (hstops _ rfl).append _, hsent.append _, .inl hsent⟩

/-- Every request of the bring-up can be written. -/
theorem isWritable_of_mem_requests {request : Request} (h : request ∈ plan.requests) :
    request.isWritable := by
  have hmeets : ∀ request ∈ meetRequests, request.isWritable := by decide
  rcases List.mem_append.1 h with hmeet | hconfig
  · exact hmeets request hmeet
  · obtain ⟨radio, -, rfl⟩ := List.mem_map.1 hconfig
    rfl

end Plan

/-! ### Starting a gateway -/

namespace Gateway

variable (g : Gateway)

/-- What the gateway goes through when it starts with a device of that identity. -/
def plan (identity : Identity) : Plan := ⟨g.board.radio1First, g.rxChannels, identity⟩

/-- The dialogue of a gateway that starts. -/
def opening : Dialogue := ⟨g.newController, g.link⟩

/-- The gateway sent the frames of the requests, up to some byte. -/
def SentUpTo (requests : List Request) (g g' : Gateway) : Prop :=
  ∃ bytes sent, Request.stream (IdSource.initial.number requests) = .ok bytes ∧
    sent <+: bytes ∧ g'.link.sent = g.link.sent ++ sent

/-- The device acknowledged that its radios are reset, and the status of the device is asked for
half a second later at the earliest. Until then nothing more is sent. -/
structure RestedBetween (plan : Plan) (acked asking : Dialogue) : Prop where
  passes : plan.Passes Plan.resetSteps g.opening acked
  sent_eq : ∃ bytes, Request.stream (IdSource.initial.number Plan.resetRequests) = .ok bytes ∧
    acked.link.sent = g.link.sent ++ bytes
  clock_le : acked.link.clock + .ofMillis 500 ≤ asking.link.clock
  unsent : asking.link.sent = acked.link.sent

/-- What the gateway sends after the requests that reset the board it sends in the steps that start
half a second later. -/
def Rests (g' : Gateway) : Prop :=
  SentUpTo Plan.resetRequests g g' ∨
    ∃ identity acked asking d, g.RestedBetween (g.plan identity) acked asking ∧
      ((g.plan identity).Passes (g.plan identity).attendSteps asking d ∨
        ∃ e, (g.plan identity).StopsIn (g.plan identity).attendSteps e asking d) ∧
      g'.link.sent = d.link.sent

variable {g}

/-- A board whose radios are reset is given half a second. -/
theorem restedBetween_rested {identity : Identity} {acked : Dialogue}
    (h : Plan.resetBoard g.opening = .ok identity acked) :
    g.RestedBetween (g.plan identity) acked (Plan.rested acked) where
  passes := ((g.plan identity).passes_of_resetBoard_ok h).2.1
  sent_eq := by
    obtain ⟨bytes, taken, hbytes, hm⟩ := (Plan.sends_resetBoard.of_ok h).moved
    exact ⟨bytes, hbytes, hm.sent_eq⟩
  clock_le := Nat.le_refl _
  unsent := rfl

/-- A gateway that stops before its radios are reset asked for nothing more. -/
theorem sentUpTo_resetRequests {d : Dialogue} {g' : Gateway}
    (h : DialogueM.SentPart Plan.resetRequests g.opening d) (hsent : g'.link.sent = d.link.sent) :
    SentUpTo Plan.resetRequests g g' := by
  obtain ⟨bytes, sent, taken, hbytes, hprefix, hm⟩ := h.exists_stream (by decide)
  exact ⟨bytes, sent, hbytes, hprefix, hsent.trans hm.sent_eq⟩

variable (g)

/-- **The protocol that opens a session.** A gateway that is started says so and does nothing. One
that is stopped writes the requests of its plan in order, up to some byte, and half a second lies
between the acknowledgement of the last reset and the request after it. It starts exactly when the
device says who it is and all steps of the plan pass. Otherwise it reports the error of the first
step that fails, and its link is closed as this step left it. -/
theorem startAttached_protocol :
    (g.isStarted → step .startAttached g =
      (.error .alreadyStarted, { g with link := g.link.note .sessionRunning })) ∧
    (¬ g.isStarted →
      ((step .startAttached g).1 = .ok .done ↔ ∃ identity d, g.link.Reports identity ∧
        (g.plan identity).Passes (g.plan identity).steps g.opening d) ∧
      ((step .startAttached g).1 = .ok .done → ∃ identity, g.link.Reports identity ∧
        SentUpTo (g.plan identity).requests g (step .startAttached g).2) ∧
      ((step .startAttached g).1 ≠ .ok .done → ∃ identity e d,
        (step .startAttached g).1 = .error e ∧
        ((g.plan identity).StopsIn Plan.greetSteps e g.opening d ∨ g.link.Reports identity) ∧
        (g.plan identity).StopsIn (g.plan identity).steps e g.opening d ∧
        SentUpTo (g.plan identity).requests g (step .startAttached g).2 ∧
        (step .startAttached g).2 = { g with link := d.link.close }) ∧
      g.Rests (step .startAttached g).2) := by
  refine ⟨step_startAttached_of_isStarted, fun hstopped ↦ ?_⟩
  rcases hbring : DialogueM.bringUp g.board.radio1First g.rxChannels g.opening with
    ⟨_, d⟩ | ⟨e, d⟩
  · obtain ⟨identity, acked, hreset, hreports, hattends, hpasses, hsent⟩ :=
      Plan.passes_of_bringUp_ok hbring
    obtain ⟨bytes, taken, hbytes, hm⟩ := hsent.moved
    rw [step_startAttached_of_ok hstopped hbring]
    refine ⟨iff_of_true rfl ⟨identity, d, hreports, hpasses⟩, fun _ ↦ ⟨identity, hreports, bytes,
      bytes, hbytes, List.prefix_rfl, hm.sent_eq⟩, fun h ↦ absurd rfl h, ?_⟩
    exact .inr ⟨identity, acked, _, d, restedBetween_rested hreset, .inl hattends, rfl⟩
  · obtain ⟨identity, hreports, hstops, hsent, hrests⟩ := Plan.stopsIn_of_bringUp_error hbring
    obtain ⟨bytes, sent, taken, hbytes, hprefix, hm⟩ :=
      hsent.exists_stream fun _ ↦ Plan.isWritable_of_mem_requests
    rw [step_startAttached_of_error hstopped hbring]
    have hfails : (.error e : Except Error Answer) ≠ .ok .done := fun h ↦ by cases h
    refine ⟨iff_of_false hfails ?_, fun h ↦ absurd h hfails, fun _ ↦ ?_, ?_⟩
    · rintro ⟨identity', d', hreports', hpasses⟩
      rcases hreports with hgreets | hreports
      · exact hpasses.not_stopsIn (Std.Refl.refl _) ((hgreets _).append _)
      · obtain rfl := hreports.unique hreports'
        exact hpasses.not_stopsIn (Std.Refl.refl _) hstops
    · exact ⟨identity, e, d, rfl, hreports.imp_left fun h ↦ h _, hstops,
        ⟨bytes, sent, hbytes, hprefix, (sent_close _).trans hm.sent_eq⟩, rfl⟩
    · rcases hrests with hpart | ⟨acked, hreset, hattends⟩
      · exact .inl (sentUpTo_resetRequests hpart (sent_close _))
      · exact .inr ⟨identity, acked, _, d, restedBetween_rested hreset, .inr ⟨e, hattends⟩,
          sent_close _⟩

/-- The requests that reset the board take 14 bytes. -/
theorem length_of_stream_resetRequests {bytes : Bytes}
    (h : Request.stream (IdSource.initial.number Plan.resetRequests) = .ok bytes) :
    bytes.length = 14 := by
  have hlength :
      (Request.stream (IdSource.initial.number Plan.resetRequests)).map List.length = .ok 14 := by
    decide +kernel
  rw [h] at hlength
  exact Except.ok.inj hlength

/-- A board with three radios passes all steps with every channel enabled, and for half a second
after its first three requests it is asked nothing. It stops at one of the steps with channel 0
alone. -/
theorem startAttached_protocol_sample :
    (∃ identity d, (sample true 3 [0, 1, 2]).link.Reports identity ∧
      ((sample true 3 [0, 1, 2]).plan identity).Passes
        ((sample true 3 [0, 1, 2]).plan identity).steps (sample true 3 [0, 1, 2]).opening d) ∧
    (∃ identity, ∃ acked asking : Dialogue,
      ((sample true 3 [0, 1, 2]).plan identity).Passes Plan.resetSteps
        (sample true 3 [0, 1, 2]).opening acked ∧
      acked.link.clock + .ofMillis 500 ≤ asking.link.clock ∧
      asking.link.sent = acked.link.sent ∧ asking.link.sent.length = 14 ∧
      14 < (step .startAttached (sample true 3 [0, 1, 2])).2.link.sent.length) ∧
    ∃ identity e d, (step .startAttached (sample true 3 [0])).1 = .error e ∧
      ((sample true 3 [0]).plan identity).StopsIn ((sample true 3 [0]).plan identity).steps e
        (sample true 3 [0]).opening d := by
  refine ⟨?_, ?_, ?_⟩
  · obtain ⟨-, hstopped⟩ := startAttached_protocol (sample true 3 [0, 1, 2])
    exact (hstopped (by decide)).1.1 (by decide +kernel)
  · obtain ⟨-, hstopped⟩ := startAttached_protocol (sample true 3 [0, 1, 2])
    have hmore : 14 < (step .startAttached (sample true 3 [0, 1, 2])).2.link.sent.length := by
      decide +kernel
    rcases (hstopped (by decide)).2.2.2 with hpart | ⟨identity, acked, asking, -, hrested, -, -⟩
    · obtain ⟨bytes, sent, hbytes, hprefix, hsent⟩ := hpart
      have hle : sent.length ≤ 14 :=
        length_of_stream_resetRequests hbytes ▸ hprefix.length_le
      rw [hsent] at hmore
      exact absurd hmore (Nat.not_lt_of_le hle)
    · obtain ⟨bytes, hbytes, hsent⟩ := hrested.sent_eq
      refine ⟨identity, acked, asking, hrested.passes, hrested.clock_le, hrested.unsent, ?_, hmore⟩
      rw [hrested.unsent, hsent]
      exact length_of_stream_resetRequests hbytes
  · obtain ⟨-, hstopped⟩ := startAttached_protocol (sample true 3 [0])
    obtain ⟨identity, e, d, houtcome, -, hstops, -⟩ :=
      (hstopped (by decide)).2.2.1 (by decide +kernel)
    exact ⟨identity, e, d, houtcome, hstops⟩

end Gateway

end LoraConcentrator
