import LoraConcentrator.Controller.Ids
import LoraConcentrator.Link.Framing
import LoraConcentrator.Wire.Request

/-!
# Controllers

A controller is the host's end of the conversation with the board's microcontroller: the source of
correlation ids, the numbers of radios learned, and how replies are checked. It speaks over a link;
the two together are a dialogue, on which programs of `DialogueM` run. A conversation is strictly
sequential: each exchange writes one request and reads one reply.
-/

namespace LoraConcentrator

/-- The host's end of a conversation. -/
structure Controller where
  ids : IdSource := .initial
  /-- The receive radios of the device, zero until it was asked. -/
  rxRadios : UInt8 := 0
  /-- The transmit radios of the device, zero until it was asked. -/
  txRadios : UInt8 := 0
  /-- Whether a reply must carry the id of its request. -/
  checksIds : Bool := false
  /-- The wait for the first byte of a reply. -/
  replyTimeout : Duration := .ofMillis 10000
  deriving DecidableEq, Repr

/-- A controller with the link it speaks over. -/
structure Dialogue where
  controller : Controller := {}
  link : Link := {}

/-- A program of a conversation. What it did before it fails stays done. -/
abbrev DialogueM := EStateM Error Dialogue

namespace DialogueM

/-- Runs a program of the link. -/
def onLink {α : Type} (program : LinkM α) : DialogueM α := fun d ↦
  match program d.link with
  | .ok a link => .ok a { d with link := link }
  | .error e link => .error e { d with link := link }

/-- The outcome of a computation without a link. -/
def ofExcept {α : Type} : Except Error α → DialogueM α
  | .ok a => pure a
  | .error e => throw e

/-- Records a notice. -/
def note (notice : Notice) : DialogueM Unit := onLink (LinkM.note notice)

/-- Lets time pass. -/
def pass (time : Duration) : DialogueM Unit := onLink (LinkM.pass time)

/-- Draws the next correlation id. -/
def drawId : DialogueM UInt8 := fun d ↦
  let (id, ids) := d.controller.ids.next
  .ok id { d with controller := { d.controller with ids := ids } }

/-- Reads one frame off the link. -/
def receiveFrame : DialogueM Bytes := do
  let timeout := (← get).controller.replyTimeout
  onLink (LinkM.receiveFrame LinkM.replyCapacity timeout)

/-- Writes a request and reads the reply to it. The id is drawn first, so a request that cannot be
written uses one up as well. -/
def exchange (request : Request) : DialogueM Frame := do
  let id ← drawId
  let payload ← ofExcept request.payload
  onLink (LinkM.sendRequest id request.code payload)
  let bytes ← receiveFrame
  let frame ← ofExcept (Frame.parse bytes)
  note (.reply frame.header.tag frame.header.id frame.payload.length)
  if (← get).controller.checksIds ∧ frame.header.id ≠ id then
    throw (.idMismatch id frame.header.id)
  return frame

/-- An exchange whose reply is read by a decoder. -/
def ask {α : Type} (request : Request) (decode : Frame → Except Error α) : DialogueM α := do
  let frame ← exchange request
  ofExcept (decode frame)

end DialogueM

end LoraConcentrator
