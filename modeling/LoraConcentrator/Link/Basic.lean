import LoraConcentrator.FileTree
import LoraConcentrator.Link.Notice

/-!
# Links

A link is the byte stream between the host and the board, with the clock that its time-outs run on.
Reading takes bytes that have arrived, as many as one read serves; a read can also fail, let time
pass or meet the end of the stream, and all of that is part of what arrives. Writing accepts some of
the bytes offered or fails. The link remembers what was sent and noticed, so that a run can be
compared with another one.

Operations on a link are programs of `LinkM`. A program that fails leaves the link as it is at the
failure: bytes that were read or written stay so.
-/

namespace LoraConcentrator

/-! ### What a link is made of -/

/-- What the receiving side of a link meets, in order. -/
inductive Arrival
  | byte (b : UInt8)
  /-- A read fails after some time. -/
  | failure (failure : IoFailure) (after : Duration)
  /-- A read finds the stream ended. -/
  | endOfFile
  deriving DecidableEq, Repr

/-- What a read meets when nothing has arrived. -/
inductive Idle
  /-- The stream has ended. -/
  | closed
  /-- Nothing comes within the time a read waits. -/
  | silent (wait : Lapse)
  /-- The other side is gone: it sent what has arrived and takes nothing any more. -/
  | hungUp
  deriving DecidableEq, Repr

/-- What can go wrong with one write. -/
inductive WriteFault
  | failure (failure : IoFailure)
  /-- The write accepts no byte. -/
  | refusal
  deriving DecidableEq, Repr

/-- How a link is reached by a device path. -/
inductive Opening
  /-- The link stands ready; opening only looks the path up. -/
  | attached
  /-- A serial port of a machine: it is set up, given time to settle and cleared of what arrived
  before. -/
  | serialPort (files : FileTree)
  /-- No path can be opened. -/
  | refused (failure : PortFailure)
  deriving DecidableEq, Repr

/-- The time-outs of a link. -/
structure LinkSettings where
  /-- The silence tolerated inside a frame. -/
  readTimeout : Duration := .ofMillis 100
  /-- The wait for the first byte of a reply. -/
  replyTimeout : Duration := .ofMillis 10000
  deriving DecidableEq, Repr

/-- A link. -/
structure Link where
  /-- What reads will meet. -/
  incoming : List Arrival := []
  idle : Idle := .closed
  /-- The most bytes that each read serves, by the number of reads before it; zero is no bound. -/
  readLimit : Nat → Nat := fun _ ↦ 0
  /-- The number of reads so far. -/
  reads : Nat := 0
  /-- The most bytes that each write accepts, by the number of writes before it; zero is no
  bound. -/
  writeLimit : Nat → Nat := fun _ ↦ 0
  /-- What goes wrong with the next writes, one entry for each: with some of them nothing. -/
  writeFaults : List (Option WriteFault) := []
  /-- What goes wrong with the next flushes, one entry for each. -/
  flushFaults : List (Option IoFailure) := []
  /-- What the device sends back, one string for each flush. -/
  answers : List Bytes := []
  /-- Everything the link accepted. -/
  sent : Bytes := []
  /-- The number of writes so far. -/
  writes : Nat := 0
  opening : Opening := .attached
  /-- The device paths of a link that stands ready. -/
  paths : List String := []
  /-- The attempts to open a path. -/
  opened : List (String × LinkSettings) := []
  /-- The path of the serial port that is open. -/
  port : Option String := none
  clock : Duration := ⟨0⟩
  /-- The notices so far, the last one first. -/
  noticed : List Notice := []

/-- A program on a link. -/
abbrev LinkM := EStateM Error Link

namespace Link

/-- The failure of a read that waited in vain. -/
def timedOut : IoFailure := ⟨.timedOut, "Operation timed out"⟩

/-- The failure of a read or write whose other side is gone. -/
def brokenPipe : IoFailure := ⟨.brokenPipe, "Broken pipe"⟩

/-- The failure of a flush that has no other side to hand over to. -/
def unflushed : IoFailure := ⟨.other, "flush failed"⟩

/-- Whether the other side is gone and all that it sent was read. -/
def isGone (link : Link) : Bool := link.idle = .hungUp ∧ link.incoming = []

/-- The number of things that have arrived or that the device will still answer. -/
def pending (link : Link) : Nat :=
  link.incoming.length + link.answers.flatten.length

/-! ### Reading -/

/-- The bytes in front, at most `n`, with what follows them. -/
def takeBytes : (n : Nat) → List Arrival → Bytes × List Arrival
  | n + 1, .byte b :: rest =>
    let (bs, rest) := takeBytes n rest
    (b :: bs, rest)
  | _, rest => ([], rest)

/-- The most bytes the next read serves into a buffer. -/
def serving (link : Link) (room : Nat) : Nat :=
  let limit := link.readLimit link.reads
  if limit = 0 then room else min limit room

/-- One read into a buffer: the bytes served, none of them at the end of the stream. -/
def read (link : Link) (room : Nat) : Except IoFailure Bytes × Link :=
  let counted := { link with reads := link.reads + 1 }
  match link.incoming with
  | .failure failure after :: rest =>
    (.error failure, { counted with incoming := rest, clock := link.clock + after })
  | .endOfFile :: rest => (.ok [], { counted with incoming := rest })
  | .byte _ :: _ =>
    let (bs, rest) := takeBytes (link.serving room) link.incoming
    (.ok bs, { counted with incoming := rest })
  | [] =>
    match link.idle with
    | .closed => (.ok [], counted)
    | .silent wait =>
      (.error timedOut, { counted with clock := link.clock + wait.toDuration })
    | .hungUp => (.error brokenPipe, counted)

/-! ### Writing -/

/-- The bytes that a write accepts of those offered, by the most it accepts; zero is no bound. -/
def share (limit offered : Nat) : Nat := if limit = 0 then offered else min limit offered

/-- The number of bytes the next write accepts of those offered, if nothing goes wrong with it. -/
def accepting (link : Link) (offered : Nat) : Nat := share (link.writeLimit link.writes) offered

/-- The link after a write that accepted those bytes. -/
def written (link : Link) (bs : Bytes) : Link :=
  { link with
    writes := link.writes + 1, writeFaults := link.writeFaults.tail, sent := link.sent ++ bs }

/-- One write: the number of bytes accepted. -/
def write (link : Link) (bs : Bytes) : Except IoFailure Nat × Link :=
  match link.writeFaults.headD none with
  | some (.failure failure) => (.error failure, link.written [])
  | some .refusal => (.ok 0, link.written [])
  | none =>
    if link.isGone then (.error brokenPipe, link.written [])
    else
      let n := link.accepting bs.length
      (.ok n, link.written (bs.take n))

/-- The link after a flush that handed over what was written. The device answers what reached
it. -/
def flushed (link : Link) : Link :=
  { link with
    flushFaults := link.flushFaults.tail
    incoming := link.incoming ++ (link.answers.headD []).map .byte
    answers := link.answers.tail }

/-- Hands over what was written. -/
def flush (link : Link) : Except IoFailure Unit × Link :=
  match link.flushFaults.headD none with
  | some failure => (.error failure, { link with flushFaults := link.flushFaults.tail })
  | none =>
    if link.isGone then (.error unflushed, { link with flushFaults := link.flushFaults.tail })
    else (.ok (), link.flushed)

/-! ### Notices and time -/

/-- Records a notice. -/
def note (link : Link) (notice : Notice) : Link :=
  { link with noticed := notice :: link.noticed }

/-- The notices so far, in order. -/
def notices (link : Link) : List Notice := link.noticed.reverse

theorem notices_note (link : Link) (notice : Notice) :
    (link.note notice).notices = link.notices ++ [notice] :=
  List.reverse_cons

/-- Lets time pass. -/
def pass (link : Link) (time : Duration) : Link :=
  { link with clock := link.clock + time }

/-- Closes the serial port, if one is open. -/
def close (link : Link) : Link :=
  match link.port with
  | some path => { link.note (.portClosed path) with port := none }
  | none => link

/-- The other side sends bytes, unless it has gone away. -/
def deliver (link : Link) (bs : Bytes) : Link :=
  if link.idle = .hungUp then link else { link with incoming := link.incoming ++ bs.map .byte }

/-- The other side of a serial port goes away, with what it sent. -/
def hangUp (link : Link) : Link := { link with incoming := [], idle := .hungUp }

/-! ### What one write changes -/

section Write

variable {link link' : Link} {bs : Bytes} {n : Nat} {failure : IoFailure}
  {outcome : Except IoFailure Nat}

/-- Whatever comes of a write, it is counted, and the next entry of what goes wrong is behind it. -/
theorem exists_of_write (h : link.write bs = (outcome, link')) :
    ∃ accepted, link' = link.written accepted := by
  unfold write at h
  split at h
  · exact ⟨[], (Prod.mk.inj h).2.symm⟩
  · exact ⟨[], (Prod.mk.inj h).2.symm⟩
  · split at h
    · exact ⟨[], (Prod.mk.inj h).2.symm⟩
    · exact ⟨_, (Prod.mk.inj h).2.symm⟩

/-- A write that accepts bytes leaves no more faults than it met. -/
theorem writeFaults_le_of_write (h : link.write bs = (outcome, link')) :
    link'.writeFaults.length ≤ link.writeFaults.length := by
  obtain ⟨accepted, rfl⟩ := exists_of_write h
  exact (List.tail_suffix link.writeFaults).length_le

/-- A write that fails by an interruption uses up a fault. -/
theorem writeFaults_lt_of_interrupted (h : link.write bs = (.error failure, link'))
    (hk : failure.kind = .interrupted) : link'.writeFaults.length < link.writeFaults.length := by
  rcases hfaults : link.writeFaults with - | ⟨fault, faults⟩
  · -- without a fault only a link that is gone fails, and with no interruption
    simp only [write, hfaults, List.headD_nil] at h
    split at h
    · cases h
      cases hk
    · cases h
  · obtain ⟨accepted, rfl⟩ := exists_of_write h
    simp only [written, hfaults, List.tail_cons, List.length_cons, Nat.lt_add_one]

end Write

end Link

namespace LinkM

/-- Records a notice. -/
def note (notice : Notice) : LinkM Unit := modify (Link.note · notice)

/-- Lets time pass. -/
def pass (time : Duration) : LinkM Unit := modify (Link.pass · time)

/-- The outcome of a computation without a link. -/
def ofExcept {α : Type} : Except Error α → LinkM α
  | .ok a => pure a
  | .error e => throw e

/-- One read into a buffer. -/
def read (room : Nat) : LinkM (Except IoFailure Bytes) := fun link ↦
  .ok (link.read room).1 (link.read room).2

/-- Reads until `wanted` bytes came or a read fails or finds the stream ended: the bytes, and the
failure that ended them. -/
def gather (wanted : Nat) : LinkM (Bytes × Option IoFailure) := fun link ↦
  if _hw : wanted = 0 then .ok ([], none) link
  else
    match link.read wanted with
    | (.ok [], link') => .ok ([], none) link'
    | (.ok (b :: bs), link') =>
      match gather (wanted - (bs.length + 1)) link' with
      | .ok (rest, stop) link' => .ok (b :: bs ++ rest, stop) link'
      | .error e link' => .error e link'
    | (.error failure, link') => .ok ([], some failure) link'
termination_by wanted

/-- Hands over what was written. -/
def flush : LinkM Unit := fun link ↦
  match link.flush with
  | (.ok (), link) => .ok () link
  | (.error failure, link) => .error (.io failure) link

/-- Writes every byte: goes on after a write that accepted only some of them or was interrupted, and
fails when a write accepts none. -/
def writeAll (bs : Bytes) : LinkM Unit := fun link ↦
  if hbs : bs = [] then .ok () link
  else
    match hw : link.write bs with
    | (.ok 0, link') => .error (.io ⟨.writeZero, "failed to write whole buffer"⟩) link'
    | (.ok (n + 1), link') =>
      have : bs.length - (n + 1) + link'.writeFaults.length <
          bs.length + link.writeFaults.length := by
        have hlength := List.length_pos_iff.2 hbs
        have hfaults := Link.writeFaults_le_of_write hw
        omega
      writeAll (bs.drop (n + 1)) link'
    | (.error failure, link') =>
      if hk : failure.kind = .interrupted then
        have := Link.writeFaults_lt_of_interrupted hw hk
        writeAll bs link'
      else .error (.io failure) link'
termination_by link => bs.length + link.writeFaults.length

/-- The time a serial port is given to settle after it was set up. -/
def settleTime : Duration := .ofMillis 100

/-- Reports that a device path cannot be opened. -/
def refuse (path : String) (failure : PortFailure) : LinkM Unit := do
  note (.portFailed path failure.description)
  throw (.port failure)

/-- Sets up the serial port of a device path. -/
def setUp (path : String) (settings : LinkSettings) : LinkM Unit := do
  pass settleTime
  modify fun link ↦
    { link with incoming := [], idle := .silent settings.readTimeout.lapse, port := some path }
  note (.portOpened path)

/-- Opens the link by a device path. -/
def openPath (path : String) (settings : LinkSettings) : LinkM Unit := do
  modify fun link ↦ { link with opened := link.opened ++ [(path, settings)] }
  let link ← get
  match link.opening with
  | .attached =>
    if path ∈ link.paths then pure ()
    else throw (.io ⟨.notFound, "no device at " ++ path⟩)
  | .serialPort files =>
    match files.openPort path with
    | .ok () => setUp path settings
    | .error fault => refuse path fault.portFailure
  | .refused failure => refuse path failure

end LinkM

end LoraConcentrator
