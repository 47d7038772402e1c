import LoraConcentrator.Controller.Operations
import LoraConcentrator.Gateway.Basic

/-!
# Sessions of a gateway

A session is opened in fixed steps: the device says who it is, its firmware is checked, its radios
are reset, its status is read, and then every enabled channel is configured that the device has a
radio for. Where radio 1 goes first the radios are taken in the order 1, 2, 0, and radio 1 must be
enabled. A session that fails at any step is not opened. Closing a session resets the radios as far
as the device lets it and always succeeds.
-/

namespace LoraConcentrator

/-- The firmware that the library speaks to. -/
def firmwareVersion : String := "01.00.01"

/-- The radios of a device that has `count` of them, in the order they are configured in. -/
def radioOrder (radio1First : Bool) (count : Nat) : List (Fin rxChannelCount) :=
  ((List.finRange rxChannelCount).take count).map fun i ↦ if radio1First then i + 1 else i

namespace DialogueM

/-- Checks that the device runs the firmware that the library speaks to. -/
def checkFirmware (identity : Identity) : DialogueM Unit := do
  if identity.firmware ≠ firmwareVersion then
    note (.firmwareMismatch firmwareVersion identity.firmware)
    throw (.firmwareMismatch firmwareVersion identity.firmware)
  note (.firmwareAccepted identity.version)
  note (.euiRead identity.eui)

/-- Configures a radio, if its channel is enabled. -/
def configureRadio (radio1First : Bool) (channels : RxChannels) (radio : Fin rxChannelCount) :
    DialogueM Unit := do
  let channel := channels[radio]
  if channel.enabled then
    if radio1First ∧ ¬ channels[1].enabled then
      note .radio1Disabled
      throw .radio1Disabled
    note (.radioConfigured radio channel)
    configRx (UInt8.ofNat radio) channel

/-- Configures radios in order. -/
def configureRadios (radio1First : Bool) (channels : RxChannels) :
    List (Fin rxChannelCount) → DialogueM Unit
  | [] => return
  | radio :: radios => do
    configureRadio radio1First channels radio
    configureRadios radio1First channels radios

/-- Meets the device: asks who it is, checks its firmware, resets its radios, reads its status. -/
def meet : DialogueM Identity := do
  let identity ← ping
  checkFirmware identity
  resetAll false
  let _ ← status
  return identity

/-- Brings a board up. -/
def bringUp (radio1First : Bool) (channels : RxChannels) : DialogueM Unit := do
  let identity ← meet
  configureRadios radio1First channels (radioOrder radio1First identity.rxRadios.toNat)

end DialogueM

namespace GatewayM

/-- Opens a session over the link as it stands. -/
def startAttached : GatewayM Unit := do
  ensureStopped
  let g ← get
  match DialogueM.bringUp g.board.radio1First g.rxChannels ⟨g.newController, g.link⟩ with
  | .ok _ d =>
    set { g with session := some d.controller, link := d.link }
    note .sessionStarted
  | .error e d =>
    set { g with link := d.link.close }
    throw e

/-- Opens the link and a session over it. -/
def start : GatewayM Unit := do
  ensureStopped
  openLink
  startAttached

/-- Resets a part of the board before a session closes; a failure is only reported. -/
def resetQuietly (target : ResetTarget) (report : Error → Notice) : DialogueM Unit := fun d ↦
  match DialogueM.reset target d with
  | .ok _ d => .ok () d
  | .error e d => DialogueM.note (report e) d

/-- Closes the session. Without one there is nothing to do. -/
def stop : GatewayM Unit := do
  if (← get).isStarted then
    inSession (resetQuietly .rxAll .rxResetFailed)
    inSession (resetQuietly .tx .txResetFailed)
    modify fun g ↦ { g with session := none }
    closeLink
    note .sessionStopped
  else note .sessionAlreadyStopped

/-- Switches the microcontroller to its bootloader and closes the session, whatever came of it. -/
def enterBootloader : GatewayM Unit := fun g ↦
  match inSession DialogueM.enterBootloader g with
  | .ok _ g' => .ok () { g' with session := none, link := g'.link.close }
  | .error e g' =>
    .error e (if g'.isStarted then { g' with session := none, link := g'.link.close } else g')

end GatewayM

end LoraConcentrator
