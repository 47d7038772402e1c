import LoraConcentrator.Gateway.Configuration
import LoraConcentrator.Gateway.Operations

/-!
# Runs of a gateway

The operations of a gateway as values, so that a history of any length is a list. A failing
operation does not end a run.
-/

namespace LoraConcentrator.Gateway

/-- What a gateway can be asked to do. -/
inductive Operation
  | configureBoard (board : BoardSettings)
  | configureRxChannel (index : UInt8) (channel : RxChannel)
  | configureTxChannel (channel : TxChannel)
  | applySettings (settings : Settings)
  | replaceBy (settings : Settings)
  | rxChannel (index : UInt8)
  | txChannel
  | start
  | startAttached
  | stop
  | receive (limit : Nat)
  | send (packet : TxPacket)
  | sendAndWait (packet : TxPacket) (limit : Duration)
  | txActivity
  | rxActivity
  | abortTx
  | reset (withMcu : Bool)
  | pulseCounter
  | instantCounter
  | temperature
  | eui
  | readRegister (radio : UInt8) (address : UInt16)
  | writeRegister (radio : UInt8) (address : UInt16) (value : UInt8)
  | setRssiCoefficient (radio : UInt8) (coefficient : Binary.Single)
  | enterBootloader
  deriving DecidableEq, Repr

/-- What an operation that succeeds gives. -/
inductive Answer
  | done
  | rxChannel (channel : Option RxChannel)
  | txChannel (channel : TxChannel)
  | packets (packets : List RxPacket)
  | txStatus (status : TxStatus)
  | txActivity (activity : TxActivity)
  | rxActivity (activity : RxActivity)
  | counter (value : UInt32)
  | temperature (degrees : Binary.Single)
  | eui (value : UInt64)
  | byte (value : UInt8)
  deriving DecidableEq, Repr

/-- A program that gives nothing. -/
def Operation.completing (program : GatewayM Unit) : GatewayM Answer := do
  program
  return .done

open GatewayM in
/-- Does what an operation says. -/
def Operation.run : Operation → GatewayM Answer
  | configureBoard board => completing (GatewayM.configureBoard board)
  | configureRxChannel index channel => completing (GatewayM.configureRxChannel index channel)
  | configureTxChannel channel => completing (GatewayM.configureTxChannel channel)
  | applySettings settings => completing (GatewayM.applySettings settings)
  | replaceBy settings => completing (GatewayM.replaceBy settings)
  | rxChannel index => do return .rxChannel ((← get).rxChannel? index)
  | txChannel => do return .txChannel (← get).txChannel
  | start => completing GatewayM.start
  | startAttached => completing GatewayM.startAttached
  | stop => completing GatewayM.stop
  | receive limit => .packets <$> GatewayM.receive limit
  | send packet => completing (GatewayM.send packet)
  | sendAndWait packet limit => .txStatus <$> GatewayM.sendAndWait packet limit
  | txActivity => .txActivity <$> GatewayM.txActivity
  | rxActivity => .rxActivity <$> GatewayM.rxActivity
  | abortTx => completing GatewayM.abortTx
  | reset withMcu => completing (GatewayM.reset withMcu)
  | pulseCounter => .counter <$> GatewayM.pulseCounter
  | instantCounter => .counter <$> GatewayM.instantCounter
  | temperature => .temperature <$> GatewayM.temperature
  | eui => .eui <$> GatewayM.eui
  | readRegister radio address => .byte <$> GatewayM.readRegister radio address
  | writeRegister radio address value =>
    completing (GatewayM.writeRegister radio address value)
  | setRssiCoefficient radio coefficient =>
    completing (GatewayM.setRssiCoefficient radio coefficient)
  | enterBootloader => completing GatewayM.enterBootloader

/-- The outcome of one operation and the gateway afterwards. -/
def step (operation : Operation) (g : Gateway) : Except Error Answer × Gateway :=
  match operation.run g with
  | .ok answer g => (.ok answer, g)
  | .error e g => (.error e, g)

/-- The outcomes of a run and the gateway afterwards. -/
def run : List Operation → Gateway → List (Except Error Answer) × Gateway
  | [], g => ([], g)
  | operation :: operations, g =>
    let (outcome, g) := step operation g
    let (outcomes, g) := run operations g
    (outcome :: outcomes, g)

end LoraConcentrator.Gateway
