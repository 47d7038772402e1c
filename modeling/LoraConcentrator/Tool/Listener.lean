import LoraConcentrator.Settings.Reader
import LoraConcentrator.Tool.Terminal

/-!
# The tool that shows received packets

It opens a session with the settings of a file, or with settings of its own, and then fetches
packets again and again. Each packet is shown once, under its number, which is counted in a word of
32 bits with a sign. An error that loses the boundary of frames closes the session and ends the
tool; any other error is shown and the tool goes on.
-/

namespace LoraConcentrator.Listener

open ToolM

/-- The most packets fetched at once. -/
def batch : Nat := 8

/-- The time between two fetches. -/
def gap : Duration := .ofMillis 10

/-- A channel of the settings used without a file. -/
def defaultChannel (freqHz : UInt32) : RxChannel where
  enabled := true
  freqHz := freqHz
  bandwidth := .khz800
  spreading := .sf12

/-- The settings used without a file. -/
def defaultSettings : Settings where
  board := { path := defaultPath }
  rxChannels := [defaultChannel 2403000000, defaultChannel 2479000000]

/-- A level in decibels. -/
def decibels (x : Binary.Single) : String :=
  Decimal.fixed 1 Binary.single x.bits.toNat ++ " dB"

/-- A received packet in words. -/
def packetText (packet : RxPacket) : String :=
  "radio " ++ toString packet.channel.toNat ++ ", " ++ toString packet.freqHz.toNat ++
    " Hz, count_us " ++ toString packet.countUs.toNat ++ ", rssi " ++ decibels packet.rssi ++
    ", snr " ++ decibels packet.snr ++ ", payload " ++ Hex.listing packet.payload.bytes

/-- The line of a received packet, under its number. -/
def packetLine (number : Int32) (packet : RxPacket) : String :=
  "[" ++ toString number ++ "] " ++ packetText packet

/-- A settings file: its name, and its content or the failure to read it. -/
structure SettingsFile where
  name : String
  content : Except IoFailure Bytes

/-- The settings of the file, if there is one. -/
def loadSettings : Option SettingsFile → ToolM Settings
  | none => return defaultSettings
  | some file =>
    match Settings.ofFile file.content with
    | .ok settings => return settings
    | .error e => do
      printError ("Failed to load \"" ++ file.name ++ "\". Error: " ++ e.message)
      fail

/-- Opens the session. -/
def start (file : Option SettingsFile) : ToolM Unit := do
  let settings ← loadSettings file
  requireOr "Invalid configuration" (GatewayM.applySettings settings)
  requireOr "Failed to start the concentrator" GatewayM.start

/-- Shows packets; `count` were shown before. Gives the number of those shown then. -/
def showPackets : (count : Int32) → List RxPacket → ToolM Int32
  | count, [] => return count
  | count, packet :: packets => do
    print (packetLine (count + 1) packet)
    showPackets (count + 1) packets

/-- What follows an error. -/
def handle (e : Error) : ToolM Unit := do
  if e.desynchronizes then
    printError ("Link lost. Error: " ++ e.message)
    let _ ← perform GatewayM.stop
    fail
  else printError e.message

/-- Fetches and shows packets once; `count` were shown before. -/
def turn (count : Int32) : ToolM Int32 := do
  match ← perform (GatewayM.receive batch) with
  | .ok packets =>
    let count ← showPackets count packets
    pause gap
    return count
  | .error e =>
    handle e
    pause gap
    return count

/-- Fetches and shows packets until an error ends the tool. Every fetch that succeeds takes some of
what arrives; one that takes nothing could only be repeated. -/
def listen (count : Int32) : ToolM Unit := fun t ↦
  match turn count t with
  | .error status t' => .error status t'
  | .ok count t' =>
    if t'.gateway.link.pending < t.gateway.link.pending then listen count t'
    else .error .failure t'
termination_by t => t.gateway.link.pending

/-- Opens a session and shows what is received in it. -/
def run (file : Option SettingsFile) : ToolM Unit := do
  start file
  listen 0

end LoraConcentrator.Listener
