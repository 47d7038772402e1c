import LoraConcentrator.Controller.Basic
import LoraConcentrator.Settings.Basic

/-!
# Gateways

A gateway holds what a board is set to and, while it is started, the controller that speaks to the
board. The controller is the session: there is one exactly while the gateway is started. Programs of
`GatewayM` keep what they did before they fail, so a session survives an operation that goes wrong.
-/

namespace LoraConcentrator

/-- The receive channels of a board. -/
abbrev RxChannels := Vector RxChannel rxChannelCount

/-- Every radio has a channel. -/
instance : GetElem RxChannels (Fin rxChannelCount) RxChannel fun _ _ ↦ True where
  getElem channels radio _ := channels.get radio

/-- A gateway with the link to its board. -/
structure Gateway where
  board : BoardSettings := {}
  rxChannels : RxChannels := Vector.replicate rxChannelCount {}
  txChannel : TxChannel := {}
  /-- The controller of the session, while the gateway is started. -/
  session : Option Controller := none
  link : Link := {}

/-- A program of a gateway. -/
abbrev GatewayM := EStateM Error Gateway

namespace Gateway

/-- Whether a session is open. -/
def isStarted (gateway : Gateway) : Bool := gateway.session.isSome

/-- The name of the state a gateway is in. -/
def stateName (gateway : Gateway) : String :=
  if gateway.isStarted then "Started" else "Stopped"

/-- The sessions that hold the link. -/
def sessionCount (gateway : Gateway) : Nat := if gateway.isStarted then 1 else 0

/-- A controller that has not spoken yet, with the settings of the board. -/
def newController (gateway : Gateway) : Controller :=
  { checksIds := gateway.board.checksIds
    replyTimeout := gateway.board.linkSettings.replyTimeout }

/-- The version of this library. -/
def libraryVersion : String := "Version: 0.1.0;"

end Gateway

namespace GatewayM

variable {α : Type}

/-- Runs a program of the link. -/
def onLink (program : LinkM α) : GatewayM α := fun g ↦
  match program g.link with
  | .ok a link => .ok a { g with link := link }
  | .error e link => .error e { g with link := link }

/-- The outcome of a computation without a link. -/
def ofExcept : Except Error α → GatewayM α
  | .ok a => pure a
  | .error e => throw e

/-- Records a notice. -/
def note (notice : Notice) : GatewayM Unit := onLink (LinkM.note notice)

/-- Closes the link. -/
def closeLink : GatewayM Unit := modify fun g ↦ { g with link := g.link.close }

/-- Runs a program of the session. -/
def inSession (program : DialogueM α) : GatewayM α := fun g ↦
  match g.session with
  | none => .error .notStarted g
  | some controller =>
    match program ⟨controller, g.link⟩ with
    | .ok a d => .ok a { g with session := some d.controller, link := d.link }
    | .error e d => .error e { g with session := some d.controller, link := d.link }

/-- Goes on only while no session is open. -/
def ensureStopped : GatewayM Unit := do
  if (← get).isStarted then
    note .sessionRunning
    throw .alreadyStarted

/-- Opens the link by the path of the board. -/
def openLink : GatewayM Unit := do
  let board := (← get).board
  if board.path.isEmpty then
    throw .boardNotConfigured
  onLink (LinkM.openPath board.path board.linkSettings)

end GatewayM

end LoraConcentrator
