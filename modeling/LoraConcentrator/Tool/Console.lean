import LoraConcentrator.Settings.Reader
import LoraConcentrator.Tool.Terminal

/-!
# Tools on a real device

Tools are pure programs; here they are run turn by turn on a device that is open. A turn is computed
on what has arrived so far, as if the device went away then. If the turn meets that end, what it has
written until then is sent to the device, one more arrival is waited for, and the turn is computed
again; otherwise the turn is over and what it wrote is shown. Pauses are kept by letting the real
clock catch up with the clock of the link before anything is sent.
-/

namespace LoraConcentrator

/-! ### Failures -/

/-- The kind of a failure of the system. -/
def IoKind.ofSystem : IO.Error → IoKind
  | .noFileOrDirectory .. => .notFound
  | .permissionDenied .. => .permissionDenied
  | .interrupted .. => .interrupted
  | .timeExpired .. => .timedOut
  | _ => .other

/-- The fault of a path that the system tells by its number, which some calls negate. -/
def FileFault.ofSystem? : IO.Error → Option FileFault
  | .noFileOrDirectory _ code _ | .inappropriateType _ code _ | .invalidArgument _ code _
  | .noSuchThing _ code _ => FileFault.ofNumber? (min code (0 - code)).toNat
  | _ => none

/-- A failure of the system. -/
def IoFailure.ofSystem (e : IO.Error) : IoFailure :=
  match FileFault.ofSystem? e with
  | some fault => fault.ioFailure
  | none => ⟨IoKind.ofSystem e, toString e⟩

/-- A failure of the system to open a port. -/
def PortFailure.ofSystem (e : IO.Error) : PortFailure :=
  match FileFault.ofSystem? e with
  | some fault => fault.portFailure
  | none => ⟨.io (IoKind.ofSystem e), toString e⟩

/-- Reads a settings file. -/
def readContent (path : String) : IO (Except IoFailure Bytes) := do
  try
    return .ok (← IO.FS.readBinFile path).toList
  catch e => return .error (.ofSystem e)

/-! ### Devices -/

/-- A device that is open. -/
structure Device where
  path : String
  source : IO.FS.Handle
  sink : IO.FS.Handle
  /-- The read that is under way. -/
  reading : IO.Ref (Option (Task (Except IO.Error ByteArray)))

namespace Device

/-- Opens a device. -/
def openAt (path : String) : IO (Except PortFailure Device) := do
  try
    let source ← IO.FS.Handle.mk path .read
    let sink ← IO.FS.Handle.mk path .readWrite
    return .ok ⟨path, source, sink, ← IO.mkRef none⟩
  catch e => return .error (.ofSystem e)

/-- Waits until a read is over, at most for the given number of milliseconds. -/
partial def waitFor (task : Task (Except IO.Error ByteArray)) (left : Nat) : IO Bool := do
  if ← IO.hasFinished task then
    return true
  else if left = 0 then
    return false
  else
    IO.sleep 1
    waitFor task (left - 1)

/-- The next arrival; silence for the given time is one as well. -/
def nextArrival (device : Device) (timeout : Duration) : IO Arrival := do
  let task ←
    match ← device.reading.get with
    | some task => pure task
    | none => IO.asTask (device.source.read 1)
  if ← waitFor task timeout.toMillis then
    device.reading.set none
    match task.get with
    | .ok bs =>
      match bs.toList with
      | [] => return .endOfFile
      | b :: _ => return .byte b
    | .error e => return .failure (.ofSystem e) ⟨0⟩
  else
    device.reading.set (some task)
    return .failure Link.timedOut timeout

/-- Drops what has arrived. -/
partial def discard (device : Device) : IO Unit := do
  if let .byte _ ← device.nextArrival (.ofMillis 1) then
    device.discard

/-- Sends bytes to the device; a failure is an arrival. -/
def send (device : Device) (bs : Bytes) : IO (List Arrival) := do
  if bs.isEmpty then
    return []
  else
    try
      device.sink.write (ByteArray.mk bs.toArray)
      device.sink.flush
      return []
    catch e => return [.failure (.ofSystem e) ⟨0⟩]

end Device

/-! ### Turns -/

/-- The end of what has arrived. -/
def missing : Arrival := .failure Link.brokenPipe ⟨0⟩

/-- A terminal before a turn on what has arrived so far. -/
def Terminal.before (t : Terminal) (arrived : List Arrival) : Terminal :=
  { gateway :=
      { t.gateway with
        link :=
          { opening := t.gateway.link.opening
            paths := t.gateway.link.paths
            incoming := arrived ++ [missing]
            idle := .hungUp } } }

/-- Shows what was written to a terminal. -/
def Terminal.show (t : Terminal) : IO Unit := do
  let output ← IO.getStdout
  let errors ← IO.getStderr
  for piece in t.output do
    output.putStr piece
  for piece in t.errors do
    errors.putStr piece
  output.flush

/-- The terminal after a turn. -/
def turnEnd {α : Type} : EStateM.Result ExitStatus Terminal α → Terminal
  | .ok _ t => t
  | .error _ t => t

/-- Runs a turn on a device, of which `written` bytes were sent since it began at `start`. -/
partial def Device.turn {α : Type} (device : Device) (tool : ToolM α) (t : Terminal)
    (arrived : List Arrival) (written start : Nat) : IO (EStateM.Result ExitStatus Terminal α) := do
  let result := tool (t.before arrived)
  let link := (turnEnd result).gateway.link
  let elapsed := (← IO.monoMsNow) - start
  if elapsed < link.clock.toMillis then
    IO.sleep (UInt32.ofNat (link.clock.toMillis - elapsed))
  let failures ← device.send (link.sent.drop written)
  if link.incoming.isEmpty then
    let board := (turnEnd result).gateway.board
    let next ←
      match failures with
      | [] => device.nextArrival board.linkSettings.readTimeout
      | failure :: _ => pure failure
    device.turn tool t (arrived ++ [next]) (max written link.sent.length) start
  else
    (turnEnd result).show
    return result

/-- Runs turns until there is none or one ends the tool. -/
partial def Device.turns {σ : Type} (device : Device) (next : σ → Option (ToolM σ)) (s : σ)
    (t : Terminal) : IO ExitStatus := do
  match next s with
  | none => return .success
  | some tool =>
    match ← device.turn tool t [] 0 (← IO.monoMsNow) with
    | .ok s t => device.turns next s t
    | .error status _ => return status

/-- Runs a turn without a device. -/
def runDetached {σ : Type} (tool : ToolM σ) (opening : Opening) : IO ExitStatus := do
  let result := tool (Terminal.before { gateway := { link := { opening := opening } } } [])
  (turnEnd result).show
  match result with
  | .ok .. => return .success
  | .error status _ => return status

/-- Runs a tool, given as turns. The device is the one that the first turn opens. -/
def runTurns {σ : Type} (next : σ → Option (ToolM σ)) (s : σ) : IO ExitStatus := do
  match next s with
  | none => return .success
  | some tool =>
    let detached := Terminal.before { gateway := { link := { opening := .attached } } } []
    match (turnEnd (tool detached)).gateway.link.opened with
    | [] => runDetached tool .attached
    | (path, _) :: _ =>
      match ← Device.openAt path with
      | .error failure => runDetached tool (.refused failure)
      | .ok device =>
        IO.sleep (UInt32.ofNat LinkM.settleTime.toMillis)
        device.discard
        let link : Link := { opening := .attached, paths := [path] }
        device.turns next s { gateway := { link := link } }

end LoraConcentrator
