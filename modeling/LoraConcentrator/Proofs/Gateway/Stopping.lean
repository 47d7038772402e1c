import LoraConcentrator.Proofs.Controller.Correlation
import LoraConcentrator.Proofs.Controller.Receiving
import LoraConcentrator.Proofs.FaultyWrites
import LoraConcentrator.Proofs.Gateway.LifeCycle

/-!
# Stopping

Before a session closes the radios are reset, first those that receive and then the one that
transmits. A board that does not answer, or not as it should, must not keep a session open: a reset
that fails, at whatever byte of its exchange and with whatever error, is reported by one warning and
otherwise passed over (`ResetTried`, `GatewayM.exists_resetQuietly_tried`). So both resets are tried
in every case, the second where the first one ended (`Gateway.ClosesSession`), and the session is
closed after them.

Without a session there is nothing to reset, and stopping leaves no more than a notice. Main
statement: `Gateway.run_stop`.
-/

namespace LoraConcentrator

open Link Program

namespace DialogueM

variable {d d' : Dialogue} {target : ResetTarget}

/-! ### How a reset ends -/

/-- Run from `d`, the program ends in `d'`, with that failure or well without one. -/
def EndsWith (program : DialogueM Unit) (failure? : Option Error) (d d' : Dialogue) : Prop :=
  match failure? with
  | none => program d = .ok () d'
  | some e => program d = .error e d'

/-- A program ends with an error or without one. -/
theorem exists_endsWith (program : DialogueM Unit) (d : Dialogue) :
    ∃ failure? d', EndsWith program failure? d d' := by
  rcases hrun : program d with ⟨⟨⟩, d'⟩ | ⟨e, d'⟩
  · exact ⟨none, d', hrun⟩
  · exact ⟨some e, d', hrun⟩

theorem EndsWith.endsIn {program : DialogueM Unit} {failure? : Option Error}
    (h : EndsWith program failure? d d') : EndsIn program d d' := by
  cases failure? with
  | none => exact .inl ⟨(), h⟩
  | some e => exact .inr ⟨e, h⟩

/-- A reset goes well where the device says so. -/
theorem reset_ok (h : reset target d = .ok () d') :
    ask (.reset target) (statusByte .reset) d = .ok statusOk d' := by
  obtain ⟨code, asked, hask, h⟩ := bind_eq_ok_iff.1 h
  split at h
  · simp only [bind_eq_ok_iff, throw_ne_ok, and_false, exists_false] at h
  · rename_i hcode
    obtain ⟨-, rfl⟩ := pure_eq_ok_iff.1 h
    rwa [← not_not.1 hcode]

/-- A reset fails where there is no answer that can be read, or where the device refuses. -/
theorem reset_error {e : Error} (h : reset target d = .error e d') :
    ask (.reset target) (statusByte .reset) d = .error e d' ∨
      ∃ code asked, ask (.reset target) (statusByte .reset) d = .ok code asked ∧
        code ≠ statusOk ∧ e = .refused (.reset target code) ∧
        d' = { asked with link := asked.link.note (.resetFailed target code) } := by
  rcases bind_eq_error_iff.1 h with hask | ⟨code, asked, hask, h⟩
  · exact .inl hask
  refine .inr ⟨code, asked, hask, ?_⟩
  split at h
  · rename_i hcode
    rcases bind_eq_error_iff.1 h with hnote | ⟨_, noted, hnote, hthrow⟩
    · exact (note_ne_error.1 hnote).elim
    · obtain ⟨rfl, rfl⟩ := throw_eq_error_iff.1 hthrow
      exact ⟨hcode, rfl, note_eq_ok_iff.1 hnote⟩
  · exact (pure_ne_error.1 h).elim

/-- The warnings that a reset itself gives, by how it ends: none when it goes well, one for a
refusal, and otherwise those of its exchange, which left the link out of step. -/
def OwnWarnings (target : ResetTarget) (own : List Notice) : Option Error → Prop
  | none => own = []
  | some e => e.desynchronizes ∨
    ∃ code, code ≠ statusOk ∧ e = .refused (.reset target code) ∧ own = [.resetFailed target code]

/-- A reset only adds to the warnings. -/
theorem exists_ownWarnings {failure? : Option Error} (htarget : (Request.reset target).isWritable)
    (h : EndsWith (reset target) failure? d d') :
    ∃ own, d'.link.warnings = d.link.warnings ++ own ∧ OwnWarnings target own failure? := by
  cases failure? with
  | none => exact ⟨[], by rw [warnings_ask (reset_ok h), List.append_nil], rfl⟩
  | some e =>
    have hkept : Keeps (InvImage Remembers Dialogue.link) (fun _ ↦ False) (reset target) :=
      (kept_of_link kept_remembers fun _ _ ↦ List.suffix_rfl).reset target
    have hremembers : Remembers d.link d'.link := (hkept.of_error h).resolve_left id
    obtain ⟨own, hown⟩ := hremembers.exists_warnings
    rcases reset_error h with hask | ⟨code, asked, hask, hcode, rfl, rfl⟩
    · obtain ⟨payload, hpayload⟩ := Request.exists_payload htarget
      exact ⟨own, hown, .inl (desynchronizes_of_ask_error hpayload
        (fun frame ↦ desynchronizing_statusByte frame .reset) hask)⟩
    · refine ⟨[.resetFailed target code], ?_, .inr ⟨code, hcode, rfl, rfl⟩⟩
      rw [warnings_note_of_warn rfl, warnings_ask hask]

/-! ### Resets whose failure is only reported -/

variable {report : Error → Notice} {failure? : Option Error} {own : List Notice}

/-- The dialogue with a report of the failure, if there is one. -/
def reporting (report : Error → Notice) (failure? : Option Error) (d : Dialogue) : Dialogue :=
  match failure? with
  | none => d
  | some e => { d with link := d.link.note (report e) }

/-- A reset was tried, with that failure or well without one. It gave warnings of its own, and a
failure was then reported by one more. -/
structure ResetTried (target : ResetTarget) (report : Error → Notice) (failure? : Option Error)
    (own : List Notice) (d d' : Dialogue) : Prop where
  /-- The exchange of the reset is the only one that was attempted. -/
  tried : Tried [.reset target] d d'
  /-- Its frame was written, or the start of it where a write fails. -/
  sent : ∃ frame sent, (Request.reset target).frame d.controller.ids.next.1 = .ok frame ∧
    sent <+: frame ∧ d'.link.sent = d.link.sent ++ sent ∧
      (sent = frame ↔ d.link.Takes frame.length)
  /-- Nothing follows the reset but the report. -/
  ended : ∃ ended, EndsWith (reset target) failure? d ended ∧
    ended.link.warnings = d.link.warnings ++ own ∧ d' = reporting report failure? ended
  ownWarnings : OwnWarnings target own failure?
  warnings_eq : d'.link.warnings = d.link.warnings ++ own ++ (failure?.map report).toList

theorem silent_reporting (report : Error → Notice) (failure? : Option Error) (d : Dialogue) :
    Silent d (reporting report failure? d) := by
  cases failure? with
  | none => exact Std.Refl.refl d
  | some e => exact ⟨rfl, [], (Moved.refl d.link).note (report e)⟩

/-- A report of a failure sends nothing. -/
theorem sent_reporting (report : Error → Notice) (failure? : Option Error) (d : Dialogue) :
    (reporting report failure? d).link.sent = d.link.sent := by
  cases failure? <;> rfl

/-- A report of a failure is one warning, and without a failure there is none. -/
theorem warnings_reporting (hreport : ∀ e, (report e).severity = .warn) (failure? : Option Error)
    (d : Dialogue) : (reporting report failure? d).link.warnings =
      d.link.warnings ++ (failure?.map report).toList := by
  cases failure? with
  | none => exact (List.append_nil _).symm
  | some e => exact warnings_note_of_warn (hreport e) d.link

/-- A reset that ended was tried, and its failure is the last of its warnings. -/
theorem resetTried_of_endsWith {ended : Dialogue} (hreport : ∀ e, (report e).severity = .warn)
    (htarget : (Request.reset target).isWritable) (h : EndsWith (reset target) failure? d ended) :
    ∃ own, ResetTried target report failure? own d (reporting report failure? ended) := by
  obtain ⟨own, hown, hwarnings⟩ := exists_ownWarnings htarget h
  obtain ⟨frame, count, sent, hframe, haccepted, hmade⟩ : Offered (.reset target) d ended := by
    rcases h.endsIn with ⟨⟨⟩, hrun⟩ | ⟨e, hrun⟩
    · exact (offers_reset htarget).of_ok hrun
    · exact (offers_reset htarget).of_error hrun
  have htried : Tried [.reset target] d ended := (tries_reset target).tried h.endsIn
  refine ⟨own, htried.append (silent_reporting report failure? ended).tried, ?_,
    ⟨ended, h, hown, rfl⟩, hwarnings, ?_⟩
  · rw [sent_reporting]
    exact ⟨frame, sent, hframe, haccepted.start, hmade.sent_eq, haccepted.whole_iff⟩
  · rw [warnings_reporting hreport, hown]

end DialogueM

open DialogueM

namespace GatewayM

/-- A reset whose failure is reported succeeds however it ended. -/
theorem resetQuietly_of_endsWith {target : ResetTarget} {failure? : Option Error} {d d' : Dialogue}
    (report : Error → Notice) (h : EndsWith (DialogueM.reset target) failure? d d') :
    resetQuietly target report d = .ok () (reporting report failure? d') := by
  unfold resetQuietly
  cases failure? with
  | none =>
    dsimp only [EndsWith] at h
    rw [h]
    rfl
  | some e =>
    dsimp only [EndsWith] at h
    rw [h]
    rfl

/-- Whatever the link and the device do, a reset is tried and the session goes on. -/
theorem exists_resetQuietly_tried (target : ResetTarget) (report : Error → Notice) (d : Dialogue)
    (hreport : ∀ e, (report e).severity = .warn) (htarget : (Request.reset target).isWritable) :
    ∃ failure? own d', resetQuietly target report d = .ok () d' ∧
      ResetTried target report failure? own d d' := by
  obtain ⟨failure?, ended, hended⟩ := exists_endsWith (DialogueM.reset target) d
  obtain ⟨own, htried⟩ := resetTried_of_endsWith hreport htarget hended
  exact ⟨failure?, own, _, resetQuietly_of_endsWith report hended, htried⟩

end GatewayM

namespace Gateway

/-! ### Stopping -/

/-- A session of the controller was closed. The receive radios were reset and, from where that
ended and whatever came of it, the transmit radio; nothing else was attempted, every failure is one
warning more, and the session and the link are all that changed. -/
def ClosesSession (controller : Controller) (g g' : Gateway) : Prop :=
  ∃ rxFailure? rxOwn txFailure? txOwn between after,
    ResetTried .rxAll .rxResetFailed rxFailure? rxOwn ⟨controller, g.link⟩ between ∧
    ResetTried .tx .txResetFailed txFailure? txOwn between after ∧
    Tried [.reset .rxAll, .reset .tx] ⟨controller, g.link⟩ after ∧
    g' = { g with session := none, link := after.link.close.note .sessionStopped } ∧
    g'.link.warnings = g.link.warnings ++ (rxOwn ++ (rxFailure?.map .rxResetFailed).toList) ++
      (txOwn ++ (txFailure?.map .txResetFailed).toList)

variable {g : Gateway}

/-- A gateway with a session closes it, whatever the link and the device do. -/
theorem exists_closesSession {controller : Controller} (hsession : g.session = some controller) :
    ∃ g', GatewayM.stop g = .ok () g' ∧ ClosesSession controller g g' := by
  have hstarted : g.isStarted := Option.isSome_iff_exists.2 ⟨controller, hsession⟩
  obtain ⟨rxFailure?, rxOwn, between, hrxRun, hrx⟩ :=
    GatewayM.exists_resetQuietly_tried .rxAll .rxResetFailed ⟨controller, g.link⟩ (fun _ ↦ rfl) rfl
  obtain ⟨txFailure?, txOwn, after, htxRun, htx⟩ :=
    GatewayM.exists_resetQuietly_tried .tx .txResetFailed between (fun _ ↦ rfl) rfl
  have hfirst := GatewayM.inSession_of_ok hsession hrxRun
  -- The second reset runs in the session as the first one left it, whatever became of that.
  have hsecond : GatewayM.inSession (GatewayM.resetQuietly .tx .txResetFailed)
      { g with session := some between.controller, link := between.link } =
        .ok () { g with session := some after.controller, link := after.link } :=
    GatewayM.inSession_of_ok rfl htxRun
  refine ⟨_, ?_, rxFailure?, rxOwn, txFailure?, txOwn, between, after, hrx, htx,
    hrx.tried.append htx.tried, rfl, ?_⟩
  · rw [GatewayM.stop, get_bind, if_pos hstarted, bind_of_ok hfirst, bind_of_ok hsecond]
    rfl
  · rw [warnings_note_of_ne rfl, warnings_close, htx.warnings_eq, hrx.warnings_eq]
    simp only [List.append_assoc]

/-- Without a session stopping leaves a notice. -/
theorem step_stop_of_stopped (h : ¬ g.isStarted) :
    step .stop g = (.ok .done, { g with link := g.link.note .sessionAlreadyStopped }) := by
  refine step_of_ok ?_
  have hstop : GatewayM.stop g = .ok () { g with link := g.link.note .sessionAlreadyStopped } := by
    rw [GatewayM.stop, get_bind, if_neg h]
    rfl
  exact bind_of_ok hstop

/-- A stop closes the session that there is. -/
theorem closesSession_step_stop {controller : Controller} (hsession : g.session = some controller) :
    ∃ g', step .stop g = (.ok .done, g') ∧ ClosesSession controller g g' := by
  obtain ⟨g', hstop, hcloses⟩ := exists_closesSession hsession
  exact ⟨g', step_of_ok (bind_of_ok hstop), hcloses⟩

/-- **Stopping always completes**: whatever was done to a gateway and whatever its link does,
stopping it succeeds, and then there is no session, no port is open and the settings are as they
were. A session is closed after both resets were tried (`ClosesSession`). Without one, and so when
a gateway is stopped again, nothing is read or written and no time passes: all that is left behind
is a notice. -/
theorem run_stop (operations : List Operation) {g : Gateway} (h : g.Tidy) :
    let before := (run operations g).2
    let after := (step .stop before).2
    (step .stop before).1 = .ok .done ∧
    ¬ after.isStarted ∧ after.link.port = none ∧ SameSettings before after ∧
    (∀ controller, before.session = some controller → ClosesSession controller before after) ∧
    (¬ before.isStarted →
      after = { before with link := before.link.note .sessionAlreadyStopped }) ∧
    step .stop after =
      (.ok .done, { after with link := after.link.note .sessionAlreadyStopped }) := by
  intro before after
  -- What every operation that closes a session does: the state, the port and the settings.
  have hclosed : Closed before after := closed_step rfl
  have hdone : (step .stop before).1 = .ok .done := by
    obtain ⟨g', hstop, -⟩ := GatewayM.stop_ok before
    exact congrArg Prod.fst (step_of_ok (bind_of_ok hstop))
  refine ⟨hdone, hclosed.stopped, hclosed.tidy (tidy_run operations h) hclosed.stopped,
    hclosed.toSameSettings, fun controller hsession ↦ ?_, fun hstopped ↦ ?_,
    step_stop_of_stopped hclosed.stopped⟩
  · obtain ⟨g', hstep, hcloses⟩ := closesSession_step_stop hsession
    rwa [show after = g' from congrArg Prod.snd hstep]
  · exact congrArg Prod.snd (step_stop_of_stopped hstopped)

/-- A board that was started and then says nothing more is stopped all the same, with a warning for
either reset. -/
theorem run_stop_sample :
    let started := (run [.startAttached] (sample true 3 [0, 1, 2])).2
    (sample true 3 [0, 1, 2]).Tidy ∧
      (∃ controller, started.session = some controller ∧
        ClosesSession controller started (step .stop started).2) ∧
      (step .stop started).1 = .ok .done ∧ ¬ (step .stop started).2.isStarted ∧
      (step .stop started).2.link.warnings =
        [.rxResetFailed .disconnected, .txResetFailed .disconnected] := by
  have htidy : (sample true 3 [0, 1, 2]).Tidy := fun _ ↦ rfl
  have hstarted : (run [.startAttached] (sample true 3 [0, 1, 2])).2.isStarted := by decide +kernel
  obtain ⟨controller, hsession⟩ := Option.isSome_iff_exists.1 hstarted
  obtain ⟨hdone, hstopped, -, -, hcloses, -⟩ := run_stop [.startAttached] htidy
  exact ⟨htidy, ⟨controller, hsession, hcloses controller hsession⟩, hdone, hstopped,
    by decide +kernel⟩

end Gateway

end LoraConcentrator
