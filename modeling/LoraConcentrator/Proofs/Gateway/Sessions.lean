import LoraConcentrator.Proofs.Gateway.LifeCycle

/-!
# The session that is open

A gateway that is started after a run was started by one operation of the run, and has been started
ever since (`Gateway.run_session`). What it was set to when the session was opened it is set to
still (`Gateway.SessionSince.sameSettings`), since settings change only without a session, and a
gateway that is replaced by another one loses its session with its settings.

The operation that opened the session wrote the requests of bringing the board up, of which those
that configure a radio have the settings of its channel (`Gateway.openedBy_of_opens`).
-/

namespace LoraConcentrator

open Link Program

/-! ### What opening a session writes -/

/-- Opening a link by its path writes nothing. -/
theorem LinkM.sent_of_openPath {path : String} {settings : LinkSettings} {link link' : Link}
    (h : openPath path settings link = .ok () link') : link'.sent = link.sent := by
  obtain ⟨_, recorded, hrecorded, h⟩ := bind_eq_ok_iff.1 h
  have hsent : recorded.sent = link.sent := by
    cases hrecorded
    rfl
  rw [← hsent]
  rw [get_bind] at h
  rcases hopening : recorded.opening with - | files | failure
  all_goals rw [hopening] at h; dsimp only at h
  · split at h
    all_goals cases h
    rfl
  · rcases hfile : files.openPort path with fault | ⟨⟩
    all_goals rw [hfile] at h; dsimp only at h
    all_goals cases h
    rfl
  · cases h

namespace Gateway

/-- A session was opened by these requests: they were written, under the ids of a controller that is
new, and those that configure a radio say what its channel is set to. -/
structure OpenedBy (requests : List Request) (g g' : Gateway) : Prop where
  sent : ∃ bytes, Request.stream (IdSource.initial.number requests) = .ok bytes ∧
    g'.link.sent = g.link.sent ++ bytes
  setup_eq : ∀ setup, .configRx setup ∈ requests →
    ∃ radio : Fin rxChannelCount, setup = g.rxChannels[radio].setup (UInt8.ofNat radio)

end Gateway

namespace GatewayM

open Gateway

variable {g g' : Gateway}

/-- Opening a link sends nothing. -/
theorem sent_of_openLink (h : openLink g = .ok () g') : g'.link.sent = g.link.sent := by
  rw [openLink, get_bind] at h
  split at h
  · cases h
  · obtain ⟨link, hpath, rfl⟩ := onLink_eq_ok_iff.1 h
    exact LinkM.sent_of_openPath hpath

/-- A start on a link that stands ready opens a session by the requests of its bring-up. -/
theorem openedBy_of_startAttached (h : startAttached g = .ok () g') :
    ∃ requests, OpenedBy requests g g' := by
  by_cases hstarted : g.isStarted
  · rw [startAttached_of_isStarted hstarted] at h
    cases h
  rw [startAttached_of_stopped hstarted] at h
  split at h
  · rename_i u d hbringUp
    cases h
    obtain ⟨identity, radios, -, -, hsent, -⟩ := DialogueM.bringUp_ok hbringUp
    obtain ⟨bytes, taken, hbytes, hm⟩ := hsent.moved
    refine ⟨_, ⟨bytes, hbytes, hm.sent_eq⟩, fun setup hmem ↦ ?_⟩
    -- none of the requests that meet the device configures a radio
    rcases List.mem_append.1 hmem with hmeet | hconfig
    · simp [DialogueM.meetRequests] at hmeet
    · obtain ⟨radio, -, hradio⟩ := List.mem_map.1 hconfig
      exact ⟨radio, (Request.configRx.inj hradio).symm⟩
  · cases h

/-- Where the link is opened first, nothing is written to it before. -/
theorem openedBy_of_start (h : start g = .ok () g') : ∃ requests, OpenedBy requests g g' := by
  by_cases hstarted : g.isStarted
  · rw [start_of_isStarted hstarted] at h
    cases h
  rw [start_of_stopped hstarted] at h
  obtain ⟨_, g₁, hopen, hattach⟩ := bind_eq_ok_iff.1 h
  obtain ⟨requests, hopened⟩ := openedBy_of_startAttached hattach
  have hsent := sent_of_openLink hopen
  obtain ⟨link, rfl⟩ := openLink_ok hopen
  refine ⟨requests, ?_, hopened.setup_eq⟩
  obtain ⟨bytes, hbytes, hsent'⟩ := hopened.sent
  exact ⟨bytes, hbytes, by rw [hsent', hsent]⟩

end GatewayM

namespace Gateway

variable {operation : Operation} {operations : List Operation} {g : Gateway}

/-! ### Steps of a session -/

/-- Only a gateway that is not replaced keeps a session, and then it keeps its settings as well. -/
theorem sameSettings_of_renews (hrenews : operation.renews) (h : (step operation g).2.isStarted) :
    g.isStarted ∧ SameSettings g (step operation g).2 := by
  cases operation with
  | replaceBy settings =>
    have hkept := GatewayM.keeps_applySettings settings
    rcases happly : GatewayM.applySettings settings { link := g.link } with ⟨⟨⟩, new⟩ | ⟨e, new⟩
    · -- the gateway that takes the place has no session
      have hnew : new.isStarted = false := (hkept.of_ok happly).isStarted_eq
      have hrun : (Operation.replaceBy settings).run g = .ok .done _ :=
        bind_of_ok (GatewayM.replaceBy_of_ok happly)
      rw [step_of_ok hrun] at h
      have hstopped : ¬ new.isStarted := hnew ▸ Bool.false_ne_true
      split at h
      all_goals exact absurd h hstopped
    · have hrun : (Operation.replaceBy settings).run g = .error e _ :=
        bind_of_error (GatewayM.replaceBy_of_error happly)
      rw [step_of_error hrun] at h ⊢
      exact ⟨h, rfl, rfl, rfl⟩
  | _ => cases hrenews

/-- A session is opened only by an operation that opens one and succeeds. -/
theorem opens_of_isStarted (hstopped : ¬ g.isStarted) (h : (step operation g).2.isStarted) :
    operation.opens ∧ (step operation g).1 = .ok .done := by
  by_cases hrenews : operation.renews
  · exact absurd (sameSettings_of_renews hrenews h).1 hstopped
  by_cases hopens : operation.opens
  · rcases step_of_opens hopens with ⟨g', hstep, -⟩ | ⟨e, g', hstep, hsteady⟩
    · exact ⟨hopens, congrArg Prod.fst hstep⟩
    · rw [hstep, hsteady.isStarted_eq] at h
      exact absurd h hstopped
  by_cases hcloses : operation.closes
  · exact absurd h (closed_step hcloses).stopped
  · rw [(sameState_step hopens hcloses hrenews).isStarted_eq] at h
    exact absurd h hstopped

/-- An operation after which the session is still open has changed no setting. -/
theorem sameSettings_of_isStarted (hstarted : g.isStarted) (h : (step operation g).2.isStarted) :
    SameSettings g (step operation g).2 := by
  by_cases hrenews : operation.renews
  · exact (sameSettings_of_renews hrenews h).2
  · exact sameSettings_step hrenews (.inl hstarted)

/-- What an operation that opens a session has written. -/
theorem openedBy_of_opens (hopens : operation.opens) (h : (step operation g).1 = .ok .done) :
    ∃ requests, OpenedBy requests g (step operation g).2 := by
  have of_program {program : GatewayM Unit}
      (hprogram : ∀ {g'}, program g = .ok () g' → ∃ requests, OpenedBy requests g g')
      (hrun : operation.run = Operation.completing program) :
      ∃ requests, OpenedBy requests g (step operation g).2 := by
    rw [step, hrun, Operation.completing] at h ⊢
    rcases houtcome : program g with ⟨⟨⟩, g'⟩ | ⟨e, g'⟩
    · rw [bind_of_ok houtcome]
      exact hprogram houtcome
    · rw [bind_of_error houtcome] at h
      cases h
  cases operation with
  | start => exact of_program GatewayM.openedBy_of_start rfl
  | startAttached => exact of_program GatewayM.openedBy_of_startAttached rfl
  | _ => cases hopens

/-! ### Runs within a session -/

/-- A run goes on where the run before it ended. -/
theorem run_append (before since : List Operation) (g : Gateway) :
    (run (before ++ since) g).2 = (run since (run before g).2).2 := by
  induction before generalizing g with
  | nil => rfl
  | cons operation before ih => exact ih (step operation g).2

/-- The gateway is started all through a run, before its first operation and after each one. -/
def StaysStarted (operations : List Operation) (g : Gateway) : Prop :=
  ∀ during, during <+: operations → (run during g).2.isStarted

theorem StaysStarted.isStarted (h : StaysStarted operations g) : g.isStarted :=
  h [] List.nil_prefix

/-- A run that stays in a session does so after its first step. -/
theorem StaysStarted.tail (h : StaysStarted (operation :: operations) g) :
    StaysStarted operations (step operation g).2 :=
  fun during hduring ↦ h (operation :: during) (List.cons_prefix_cons.2 ⟨rfl, hduring⟩)

theorem StaysStarted.cons (hstarted : g.isStarted)
    (h : StaysStarted operations (step operation g).2) :
    StaysStarted (operation :: operations) g := by
  intro during hduring
  rcases List.prefix_cons_iff.1 hduring with rfl | ⟨during', rfl, hduring'⟩
  · exact hstarted
  · exact h during' hduring'

/-- What a gateway was set to when its session was opened it is set to still. -/
theorem sameSettings_of_staysStarted (h : StaysStarted operations g) :
    SameSettings g (run operations g).2 := by
  induction operations generalizing g with
  | nil => exact Std.Refl.refl g
  | cons operation operations ih =>
    have hstep := sameSettings_of_isStarted h.isStarted h.tail.isStarted
    exact IsTrans.trans _ _ _ hstep (ih h.tail)

/-- The session after a run: one operation of the run opened it, after those before, and it has been
open since. -/
structure SessionSince (operations before : List Operation) (opening : Operation)
    (since : List Operation) (g : Gateway) : Prop where
  operations_eq : operations = before ++ opening :: since
  opens : opening.opens
  opened : (step opening (run before g).2).1 = .ok .done
  stays : StaysStarted since (step opening (run before g).2).2

/-- The session that is open after a run was open before it and all the time, or some operation of
the run opened it and it was open from then on. By induction on the run: what comes after the first
operation opened the session, or the first operation did, or it was open already. -/
theorem run_session (operations : List Operation) {g : Gateway}
    (h : (run operations g).2.isStarted) :
    StaysStarted operations g ∨
      ∃ before opening since, SessionSince operations before opening since g := by
  induction operations generalizing g with
  | nil =>
    refine .inl fun during hduring ↦ ?_
    rw [List.prefix_nil.1 hduring]
    exact h
  | cons operation operations ih =>
    rcases ih h with hstays | ⟨before, opening, since, hsession⟩
    · by_cases hstarted : g.isStarted
      · exact .inl (.cons hstarted hstays)
      · obtain ⟨hopens, hdone⟩ := opens_of_isStarted hstarted hstays.isStarted
        exact .inr ⟨[], operation, operations, rfl, hopens, hdone, hstays⟩
    · refine .inr ⟨operation :: before, opening, since, ?_, hsession.opens, hsession.opened,
        hsession.stays⟩
      exact congrArg (operation :: ·) hsession.operations_eq

/-- In its session a gateway is set to what it was set to when the session was opened. -/
theorem SessionSince.sameSettings {before since : List Operation} {opening : Operation}
    (h : SessionSince operations before opening since g) :
    SameSettings (run before g).2 (run operations g).2 := by
  rw [h.operations_eq, run_append]
  exact IsTrans.trans _ _ _ (sameSettings_of_opens h.opens) (sameSettings_of_staysStarted h.stays)

end Gateway

end LoraConcentrator
