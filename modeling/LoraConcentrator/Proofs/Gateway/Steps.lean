import LoraConcentrator.Proofs.Controller.Lockstep
import LoraConcentrator.Proofs.Gateway.BringUp
import LoraConcentrator.Proofs.Link.Notices
import LoraConcentrator.Proofs.Wire.Acceptance

/-!
# Steps of bringing a board up

Bringing a board up is a row of steps (`Plan.steps`): the device says who it is, its firmware is
checked, its radios are reset and given time, its status is read, and then each enabled channel that
the order of the radios visits is checked and configured. The row depends on the settings and on
what the device says of itself, so a `Plan` is these together.

A step that is an exchange passes when the reply to its request is accepted. A step that passes
starts where the one before it passed, with nothing but notices in between (`Plan.Passes`), so a
request is written only once every earlier one was accepted. A row of steps may also stop at the
first step that fails (`Plan.StopsIn`). Main statement: from one dialogue, a row of steps does not
do both (`Plan.Passes.not_stopsIn`).
-/

namespace LoraConcentrator

open Link Program

/-! ### Steps -/

/-- A step of bringing a board up. -/
inductive Step
  /-- A request is written and its reply read. -/
  | ask (request : Request)
  /-- The numbers of radios that the device has are kept. -/
  | learn
  /-- The firmware is compared with the one that the library speaks to. -/
  | firmware
  /-- The radios are given half a second after their reset. -/
  | settle
  /-- Where radio 1 goes first its channel is enabled. -/
  | radio1
  /-- The device has the radio. -/
  | known (radio : Fin rxChannelCount)
  deriving DecidableEq, Repr

/-- What the steps of a bring-up depend on: the settings, and what the device says of itself. -/
structure Plan where
  radio1First : Bool
  channels : RxChannels
  identity : Identity

/-- Nothing happened but notices. -/
abbrev Quiet : Dialogue → Dialogue → Prop := Dialogue.Over SameButNotices

theorem quiet_note (d : Dialogue) (notice : Notice) :
    Quiet d { d with link := d.link.note notice } :=
  ⟨_, ⟨notice :: d.link.noticed, rfl⟩, rfl⟩

namespace Plan

open DialogueM

variable (plan : Plan)

/-- The radios that are configured, in order. -/
def radios : List (Fin rxChannelCount) :=
  enabledRadios plan.channels (radioOrder plan.radio1First plan.identity.rxRadios.toNat)

/-- The steps that ask the device who it is. -/
def greetSteps : List Step := [.ask .ping, .learn]

/-- The steps until the radios are reset. -/
def resetSteps : List Step :=
  greetSteps ++ [.firmware, .ask (.reset .rxAll), .ask (.reset .tx)]

/-- The steps that configure a radio. -/
def radioSteps (radio : Fin rxChannelCount) : List Step :=
  [.radio1, .known radio, .ask (configRequest plan.channels radio)]

/-- The steps once the radios had their time. -/
def attendSteps : List Step := .ask .getStatus :: plan.radios.flatMap plan.radioSteps

/-- The steps of the bring-up. -/
def steps : List Step := resetSteps ++ .settle :: plan.attendSteps

/-- The requests of the bring-up. -/
def requests : List Request := meetRequests ++ plan.radios.map (configRequest plan.channels)

/-- The dialogue with the numbers of radios that the device has. -/
def learned (d : Dialogue) : Dialogue :=
  { d with controller :=
    { d.controller with rxRadios := plan.identity.rxRadios, txRadios := plan.identity.txRadios } }

/-! ### Steps that pass and steps that fail -/

/-- A step passes between two dialogues. -/
inductive StepPasses : Step → Dialogue → Dialogue → Prop
  | ask {request : Request} {written reply : Bytes} {frame : Frame} {d d' : Dialogue} :
    exchange request d = .ok frame d' → Exchanged request written reply frame d d' →
      request.Accepts plan.identity.rxRadios frame → StepPasses (.ask request) d d'
  | learn {d : Dialogue} : StepPasses .learn d (plan.learned d)
  | firmware {d : Dialogue} :
    plan.identity.firmware = firmwareVersion → StepPasses .firmware d d
  | settle {d : Dialogue} : StepPasses .settle d { d with link := d.link.pass (.ofMillis 500) }
  | radio1 {d : Dialogue} :
    (plan.radio1First → plan.channels[1].enabled) → StepPasses .radio1 d d
  | known {radio : Fin rxChannelCount} {d : Dialogue} :
    radio < plan.identity.rxRadios.toNat → StepPasses (.known radio) d d

/-- A step fails with an error. A step that is an exchange fails because there is no reply, or
because the reply is rejected. -/
inductive StepFails : Step → Error → Dialogue → Dialogue → Prop
  | unanswered {request : Request} {e : Error} {d d' : Dialogue} :
    exchange request d = .error e d' → StepFails (.ask request) e d d'
  | rejected {request : Request} {written reply : Bytes} {frame : Frame} {e : Error}
      {d d' : Dialogue} :
    exchange request d = .ok frame d' → Exchanged request written reply frame d d' →
      request.Rejects plan.identity.rxRadios frame e → StepFails (.ask request) e d d'
  | firmware {d : Dialogue} :
    plan.identity.firmware ≠ firmwareVersion →
      StepFails .firmware (.firmwareMismatch firmwareVersion plan.identity.firmware) d d
  | radio1 {d : Dialogue} :
    plan.radio1First → ¬ plan.channels[1].enabled → StepFails .radio1 .radio1Disabled d d
  | known {radio : Fin rxChannelCount} {d : Dialogue} :
    plan.identity.rxRadios.toNat ≤ radio →
      StepFails (.known radio) (.invalidChannel (UInt8.ofNat radio) plan.identity.rxRadios) d d

/-- The steps pass one after the other, with nothing but notices in between. -/
inductive Passes : List Step → Dialogue → Dialogue → Prop
  | nil {d d' : Dialogue} : Quiet d d' → Passes [] d d'
  | cons {step : Step} {steps : List Step} {d d₁ d₂ d' : Dialogue} :
    Quiet d d₁ → plan.StepPasses step d₁ d₂ → Passes steps d₂ d' → Passes (step :: steps) d d'

/-- The first steps pass and the one after them fails with the error; nothing but notices comes
after it. -/
inductive StopsIn : List Step → Error → Dialogue → Dialogue → Prop
  | here {step : Step} {steps : List Step} {e : Error} {d d₁ d₂ d' : Dialogue} :
    Quiet d d₁ → plan.StepFails step e d₁ d₂ → Quiet d₂ d' → StopsIn (step :: steps) e d d'
  | later {step : Step} {steps : List Step} {e : Error} {d d₁ d₂ d' : Dialogue} :
    Quiet d d₁ → plan.StepPasses step d₁ d₂ → StopsIn steps e d₂ d' →
      StopsIn (step :: steps) e d d'

variable {plan} {steps steps' : List Step} {step : Step} {d d' d'' : Dialogue} {e : Error}

/-- Notices may come first. -/
theorem Passes.of_quiet (h : Quiet d d') (h' : plan.Passes steps d' d'') :
    plan.Passes steps d d'' := by
  cases h' with
  | nil hquiet => exact .nil (IsTrans.trans _ _ _ h hquiet)
  | cons hquiet hstep hsteps => exact .cons (IsTrans.trans _ _ _ h hquiet) hstep hsteps

/-- Steps pass after steps. -/
theorem Passes.trans (h : plan.Passes steps d d') (h' : plan.Passes steps' d' d'') :
    plan.Passes (steps ++ steps') d d'' := by
  induction h with
  | nil hquiet => exact h'.of_quiet hquiet
  | cons hquiet hstep _ ih => exact .cons hquiet hstep (ih h')

/-- One step with nothing but notices after it. -/
theorem StepPasses.passes (h : plan.StepPasses step d d') (h' : Quiet d' d'') :
    plan.Passes [step] d d'' :=
  .cons (Std.Refl.refl d) h (.nil h')

/-- A row of steps stops at its first one when this one fails. -/
theorem StepFails.stopsIn (h : plan.StepFails step e d d') (h' : Quiet d' d'')
    (steps : List Step) : plan.StopsIn (step :: steps) e d d'' :=
  .here (Std.Refl.refl d) h h'

/-- A row of steps that stops may have others after it. -/
theorem StopsIn.append (h : plan.StopsIn steps e d d') (steps' : List Step) :
    plan.StopsIn (steps ++ steps') e d d' := by
  induction h with
  | here hquiet hstep hend => exact .here hquiet hstep hend
  | later hquiet hstep _ ih => exact .later hquiet hstep ih

/-- Notices may come before the step that fails. -/
theorem StopsIn.of_quiet (h : Quiet d d') (h' : plan.StopsIn steps e d' d'') :
    plan.StopsIn steps e d d'' := by
  cases h' with
  | here hquiet hstep hend => exact .here (IsTrans.trans _ _ _ h hquiet) hstep hend
  | later hquiet hstep hsteps => exact .later (IsTrans.trans _ _ _ h hquiet) hstep hsteps

/-- A row of steps that stops may have others before it that pass. -/
theorem Passes.trans_stopsIn (h : plan.Passes steps d d') (h' : plan.StopsIn steps' e d' d'') :
    plan.StopsIn (steps ++ steps') e d d'' := by
  induction h with
  | nil hquiet => exact h'.of_quiet hquiet
  | cons hquiet hstep _ ih => exact .later hquiet hstep (ih h')

/-! ### Steps pass or fail -/

/-- An exchange does not depend on notices. -/
theorem exchange_of_quiet {request : Request} {frame : Frame} (h : Quiet d d')
    (hexchange : exchange request d = .ok frame d'') :
    ∃ e, exchange request d' = .ok frame e ∧ Quiet d'' e :=
  (lockstep_exchange hidden_sameButNotices request h).exists_of_ok hexchange

/-- What a step leaves behind does not depend on notices. -/
theorem StepPasses.unique {e e' : Dialogue} (h : plan.StepPasses step d d') (hquiet : Quiet d e)
    (h' : plan.StepPasses step e e') : Quiet d' e' := by
  cases h with
  | ask hexchange _ _ =>
    obtain ⟨hexchange', -, -⟩ := h'
    obtain ⟨last, hagree, hend⟩ := exchange_of_quiet hquiet hexchange
    cases hexchange'.symm.trans hagree
    exact hend
  | learn =>
    obtain ⟨⟩ := h'
    obtain ⟨link, hlink, rfl⟩ := hquiet
    exact ⟨link, hlink, rfl⟩
  | settle =>
    obtain ⟨⟩ := h'
    obtain ⟨link, hlink, rfl⟩ := hquiet
    exact ⟨_, hidden_sameButNotices.pass _ hlink, rfl⟩
  | firmware | radio1 | known =>
    obtain ⟨⟩ := h'
    exact hquiet

/-- A step that passes does not fail. -/
theorem StepPasses.not_stepFails {d₁ d₁' : Dialogue} (h : plan.StepPasses step d d')
    (hquiet : Quiet d d₁) : ¬ plan.StepFails step e d₁ d₁' := by
  intro h'
  cases h with
  | ask hexchange _ haccepts =>
    obtain ⟨last, hagree, -⟩ := exchange_of_quiet hquiet hexchange
    cases h' with
    | unanswered herror => cases herror.symm.trans hagree
    | rejected hexchange' _ hrejects =>
      cases hexchange'.symm.trans hagree
      exact haccepts.not_rejects hrejects
  | learn | settle => cases h'
  | firmware heq =>
    cases h' with
    | firmware hne => exact hne heq
  | radio1 henabled =>
    cases h' with
    | radio1 hfirst hdisabled => exact hdisabled (henabled hfirst)
  | known hlt =>
    cases h' with
    | known hle => exact Nat.not_lt_of_le hle hlt

/-- A row of steps that passes does not stop. By induction on the steps: two runs of them stay the
same but for notices. -/
theorem Passes.not_stopsIn {d₁ d₁' : Dialogue} (h : plan.Passes steps d d') (hquiet : Quiet d d₁) :
    ¬ plan.StopsIn steps e d₁ d₁' := by
  induction h generalizing d₁ with
  | nil _ =>
    intro h'
    cases h'
  | cons hbefore hstep _ ih =>
    intro h'
    cases h' with
    | here hbefore' hfails _ =>
      refine hstep.not_stepFails ?_ hfails
      exact IsTrans.trans _ _ _ (Std.Symm.symm _ _ hbefore) (IsTrans.trans _ _ _ hquiet hbefore')
    | later hbefore' hstep' hsteps =>
      have hsame := IsTrans.trans _ _ _ (Std.Symm.symm _ _ hbefore)
        (IsTrans.trans _ _ _ hquiet hbefore')
      exact ih (hstep.unique hsame hstep') hsteps

end Plan

end LoraConcentrator
