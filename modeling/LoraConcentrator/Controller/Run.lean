import LoraConcentrator.Controller.Operations

/-!
# Runs of a controller

The operations of a controller as values, so that a conversation of any length is a list. A failing
operation does not end a run: the next one finds the link and the controller as the failure left
them.
-/

namespace LoraConcentrator.Controller

/-- What a controller can be asked to do. -/
inductive Operation
  | ping
  | status
  | txStatus
  | configRx (radio : UInt8) (channel : RxChannel)
  | prepareTx (packet : TxPacket)
  | awaitTx (interval limit : Duration)
  | receive (limit : Nat)
  | reset (target : ResetTarget)
  | resetAll (withMcu : Bool)
  | enterBootloader
  | readRegister (radio : UInt8) (address : UInt16)
  | writeRegister (radio : UInt8) (address : UInt16) (value : UInt8)
  | setRssiCoefficient (radio : UInt8) (coefficient : Binary.Single)
  deriving DecidableEq, Repr

/-- What an operation that succeeds gives. -/
inductive Answer
  | done
  | identity (identity : Identity)
  | status (status : DeviceStatus)
  | txStatus (status : TxStatus)
  | packets (packets : List RxPacket)
  | byte (value : UInt8)
  deriving DecidableEq, Repr

/-- Does what an operation says. -/
def Operation.run : Operation → DialogueM Answer
  | ping => .identity <$> DialogueM.ping
  | status => .status <$> DialogueM.status
  | txStatus => .txStatus <$> DialogueM.txStatus
  | configRx radio channel => (fun _ ↦ .done) <$> DialogueM.configRx radio channel
  | prepareTx packet => (fun _ ↦ .done) <$> DialogueM.prepareTx packet
  | awaitTx interval limit => .txStatus <$> DialogueM.awaitTx interval limit
  | receive limit => .packets <$> DialogueM.receive limit
  | reset target => (fun _ ↦ .done) <$> DialogueM.reset target
  | resetAll withMcu => (fun _ ↦ .done) <$> DialogueM.resetAll withMcu
  | enterBootloader => (fun _ ↦ .done) <$> DialogueM.enterBootloader
  | readRegister radio address => .byte <$> DialogueM.readRegister radio address
  | writeRegister radio address value =>
    (fun _ ↦ .done) <$> DialogueM.writeRegister radio address value
  | setRssiCoefficient radio coefficient =>
    (fun _ ↦ .done) <$> DialogueM.setRssiCoefficient radio coefficient

/-- The outcome of one operation and the dialogue afterwards. -/
def step (operation : Operation) (d : Dialogue) : Except Error Answer × Dialogue :=
  match operation.run d with
  | .ok answer d => (.ok answer, d)
  | .error e d => (.error e, d)

/-- The outcomes of a run and the dialogue afterwards. -/
def run : List Operation → Dialogue → List (Except Error Answer) × Dialogue
  | [], d => ([], d)
  | operation :: operations, d =>
    let (outcome, d) := step operation d
    let (outcomes, d) := run operations d
    (outcome :: outcomes, d)

end LoraConcentrator.Controller
