import LoraConcentrator.Proofs.Gateway.BringUp
import LoraConcentrator.Gateway.Run

/-!
# What an operation needs

The board is set, and a session opened, only while there is none; most other operations need one.
Both are checked before anything else happens, so an operation that is refused for this has touched
nothing: a program that needs a stopped gateway reports the session that is open and does no more
(`GatewayM.NeedsStopped`), and a program that needs a session leaves a stopped gateway as it is
(`GatewayM.NeedsSession`). What starts with such a program is such a program.
-/

namespace LoraConcentrator

open Program

variable {α β : Type}

namespace GatewayM

variable {g g' : Gateway}

/-! ### Steps of a gateway -/

theorem onLink_eq_ok_iff {program : LinkM α} {a : α} :
    onLink program g = .ok a g' ↔
      ∃ link, program g.link = .ok a link ∧ g' = { g with link := link } := by
  unfold onLink
  rcases program g.link with ⟨b, link⟩ | ⟨e, link⟩
  · constructor
    · intro h
      cases h
      exact ⟨link, rfl, rfl⟩
    · rintro ⟨_, h, rfl⟩
      cases h
      rfl
  · constructor
    · intro h
      cases h
    · rintro ⟨_, h, -⟩
      cases h

theorem onLink_eq_error_iff {program : LinkM α} {e : Error} :
    onLink program g = .error e g' ↔
      ∃ link, program g.link = .error e link ∧ g' = { g with link := link } := by
  unfold onLink
  rcases program g.link with ⟨b, link⟩ | ⟨e', link⟩
  · constructor
    · intro h
      cases h
    · rintro ⟨_, h, -⟩
      cases h
  · constructor
    · intro h
      cases h
      exact ⟨link, rfl, rfl⟩
    · rintro ⟨_, h, rfl⟩
      cases h
      rfl

section InSession

variable {program : DialogueM α} {controller : Controller} {d : Dialogue}

/-- In a session a program runs on its controller, and the session goes on with what that has
become. -/
theorem inSession_of_ok {a : α} (hsession : g.session = some controller)
    (h : program ⟨controller, g.link⟩ = .ok a d) :
    inSession program g = .ok a { g with session := some d.controller, link := d.link } := by
  rw [inSession, hsession]
  simp only [h]

theorem inSession_of_error {e : Error} (hsession : g.session = some controller)
    (h : program ⟨controller, g.link⟩ = .error e d) :
    inSession program g = .error e { g with session := some d.controller, link := d.link } := by
  rw [inSession, hsession]
  simp only [h]

/-- What succeeds in a session is a dialogue of its controller. -/
theorem inSession_eq_ok_iff {a : α} :
    inSession program g = .ok a g' ↔
      ∃ controller d, g.session = some controller ∧ program ⟨controller, g.link⟩ = .ok a d ∧
        g' = { g with session := some d.controller, link := d.link } := by
  constructor
  · intro h
    rcases hsession : g.session with - | controller
    · rw [inSession, hsession] at h
      cases h
    rcases hprogram : program ⟨controller, g.link⟩ with ⟨a', d⟩ | ⟨e, d⟩
    · cases (inSession_of_ok hsession hprogram).symm.trans h
      exact ⟨controller, d, rfl, hprogram, rfl⟩
    · cases (inSession_of_error hsession hprogram).symm.trans h
  · rintro ⟨controller, d, hsession, hprogram, rfl⟩
    exact inSession_of_ok hsession hprogram

end InSession

/-! ### Programs for stopped gateways -/

/-- A gateway that is started refuses the program and says that it is started. -/
def NeedsStopped (program : GatewayM α) : Prop :=
  ∀ g : Gateway, g.isStarted →
    program g = .error .alreadyStarted { g with link := g.link.note .sessionRunning }

theorem needsStopped_ensureStopped : NeedsStopped ensureStopped :=
  fun _ h ↦ ensureStopped_of_isStarted h

/-- What comes after the check needs a stopped gateway as well. -/
theorem NeedsStopped.bind {x : GatewayM α} (hx : NeedsStopped x) (f : α → GatewayM β) :
    NeedsStopped (x >>= f) :=
  fun g h ↦ bind_of_error (hx g h)

/-! ### Programs for started gateways -/

/-- A gateway that is stopped refuses the program and stays as it is. -/
def NeedsSession (program : GatewayM α) : Prop :=
  ∀ g : Gateway, ¬ g.isStarted → program g = .error .notStarted g

/-- Without a session no program runs. -/
theorem inSession_of_stopped (program : DialogueM α) (h : ¬ g.isStarted) :
    inSession program g = .error .notStarted g := by
  have hsession : g.session = none := Option.not_isSome_iff_eq_none.1 h
  rw [inSession, hsession]

theorem needsSession_inSession (program : DialogueM α) : NeedsSession (inSession program) :=
  fun _ h ↦ inSession_of_stopped program h

namespace NeedsSession

variable {x : GatewayM α}

/-- What comes after a program in a session needs one as well. -/
theorem bind (hx : NeedsSession x) (f : α → GatewayM β) : NeedsSession (x >>= f) :=
  fun g h ↦ bind_of_error (hx g h)

theorem map (hx : NeedsSession x) (f : α → β) : NeedsSession (f <$> x) :=
  fun g h ↦ map_of_error f (hx g h)

/-- Looking at the gateway needs no session, so what follows has to need it. -/
theorem get_bind {f : Gateway → GatewayM α} (hf : ∀ g, NeedsSession (f g)) :
    NeedsSession (get >>= f) :=
  fun g h ↦ hf g g h

end NeedsSession

/-- Entering the bootloader needs a session, which it ends. -/
theorem needsSession_enterBootloader : NeedsSession enterBootloader := by
  intro g h
  rw [enterBootloader, inSession_of_stopped _ h]
  exact congrArg (EStateM.Result.error _) (if_neg h)

end GatewayM

/-! ### Kinds of operations -/

namespace Gateway.Operation

/-- The operations that open a session. -/
def opens : Operation → Bool
  | start | startAttached => true
  | _ => false

/-- The operations that close the session. -/
def closes : Operation → Bool
  | stop | enterBootloader => true
  | _ => false

/-- The operations that set the board and its channels. -/
def configures : Operation → Bool
  | configureBoard _ | configureRxChannel .. | configureTxChannel _ | applySettings _ => true
  | _ => false

/-- The operation that puts another gateway in the place of this one, and its session away. -/
def renews : Operation → Bool
  | replaceBy _ => true
  | _ => false

/-- The operations that speak to the board in its session. -/
def needsSession : Operation → Bool
  | receive _ | send _ | sendAndWait .. | abortTx | reset _ | pulseCounter | instantCounter
  | temperature | readRegister .. | writeRegister .. | setRssiCoefficient .. | enterBootloader =>
    true
  | _ => false

open GatewayM

/-- What opens a session or sets the board needs a stopped gateway. -/
theorem needsStopped_run {operation : Operation} (h : operation.opens ∨ operation.configures) :
    NeedsStopped operation.run := by
  have guarded {program : GatewayM Unit} (f : Unit → GatewayM Unit)
      (hprogram : program = ensureStopped >>= f) : NeedsStopped (completing program) := by
    rw [hprogram]
    exact (needsStopped_ensureStopped.bind f).bind _
  cases operation with
  | configureBoard board => exact guarded _ rfl
  | configureRxChannel index channel => exact guarded _ rfl
  | configureTxChannel channel => exact guarded _ rfl
  | applySettings settings =>
    have hboard : NeedsStopped (GatewayM.configureBoard settings.board) :=
      needsStopped_ensureStopped.bind _
    exact (hboard.bind _).bind _
  | start => exact guarded _ rfl
  | startAttached => exact guarded _ rfl
  | _ => cases h with | _ h => cases h

/-- What speaks to the board needs a session. -/
theorem needsSession_run {operation : Operation} (h : operation.needsSession) :
    NeedsSession operation.run := by
  cases operation with
  | receive limit => exact ((needsSession_inSession _).bind _).map _
  | send packet => exact (needsSession_inSession _).bind _
  | sendAndWait packet limit =>
    exact (NeedsSession.get_bind fun _ ↦ (needsSession_inSession _).bind _).map _
  | abortTx => exact (needsSession_inSession _).bind _
  | reset withMcu => exact (needsSession_inSession _).bind _
  | pulseCounter => exact ((needsSession_inSession _).bind _).map _
  | instantCounter => exact ((needsSession_inSession _).bind _).map _
  | temperature => exact ((needsSession_inSession _).bind _).map _
  | readRegister radio address => exact (needsSession_inSession _).map _
  | writeRegister radio address value => exact (needsSession_inSession _).bind _
  | setRssiCoefficient radio coefficient => exact (needsSession_inSession _).bind _
  | enterBootloader => exact needsSession_enterBootloader.bind _
  | _ => cases h

end Gateway.Operation

end LoraConcentrator
