import LoraConcentrator.Radio.Airtime
import LoraConcentrator.Tool.Terminal

/-!
# The tool that sends numbered packets

It sends ten packets, each as soon as the one before it is over and a short time has passed, and
ends at the first error. The first argument is the device path; further ones are ignored.
-/

namespace LoraConcentrator.Sender

open ToolM

/-- The number of packets. -/
def packetCount : Nat := 10

/-- The time between two packets. -/
def gap : Duration := .ofMillis 250

/-- The text of a packet: its number in four digits. -/
def packetText (number : Nat) : String :=
  "PING " ++ String.ofList (Duration.padded 4 number)

/-- The text of a packet as bytes, one for each of its characters. -/
def packetBytes (number : Nat) : Bytes :=
  (packetText number).toList.map fun c ↦ UInt8.ofNat c.toNat

/-- The packet of a number. -/
def packet (number : Nat) : TxPacket where
  freqHz := 2425000000
  power := 10
  bandwidth := .khz800
  spreading := .sf12
  coding := .long48
  payload := (Payload.ofBytes? (packetBytes number)).getD .empty

/-- How long a transmission may take: twice its time on air and a tenth of a second. -/
def patience (airtime : Airtime) : Duration := .ofMillis (2 * airtime.ms.toNat + 100)

/-- A packet that was sent, in words. -/
def sentLine (number : Nat) (packet : TxPacket) (airtime : Airtime) (status : TxStatus) :
    String :=
  "packet " ++ toString number ++ " sent (" ++ toString packet.payload.size ++ " bytes, " ++
    toString airtime.ms.toNat ++ " ms on air): " ++ status.name

/-- Sends a packet and shows what came of it. -/
def sendNumber (number : Nat) : ToolM Unit := do
  let packet := packet number
  let airtime := Airtime.ofPacket packet
  let status ← require (GatewayM.sendAndWait packet (patience airtime))
  print (sentLine number packet airtime status)
  pause gap

/-- Opens the session. -/
def start (arguments : List String) : ToolM Unit := do
  require (GatewayM.configureBoard { path := arguments.headD defaultPath })
  require GatewayM.start

/-- What the tool does, one turn for each packet. -/
def turns (arguments : List String) : List (ToolM Unit) :=
  start arguments :: (List.range packetCount).map sendNumber ++ [require GatewayM.stop]

/-- Sends the packets in a session of their own. -/
def run (arguments : List String) : ToolM Unit := inOrder (turns arguments)

end LoraConcentrator.Sender
