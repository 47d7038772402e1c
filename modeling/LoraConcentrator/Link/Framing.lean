import LoraConcentrator.Link.Basic

/-!
# Frames on a link

Writing a request frame and reading a reply frame. The first byte of a reply is waited for as long
as the device may take to answer; from then on every silence, interruption or end of the stream
leaves the link inside the frame and is an error. A frame is read in three parts, its first byte,
the rest of its header and its payload, so that no byte of the next frame is touched.
-/

namespace LoraConcentrator.LinkM

/-! ### Writing a request -/

/-- Writes the frame of a request. -/
def sendRequest (id : UInt8) (request : RequestCode) (payload : Bytes) : LinkM Unit := do
  let frame ← ofExcept (requestFrame id request payload)
  note (.request request id (frame.length - Header.byteCount))
  note (.bytesOut frame)
  writeAll frame
  flush

/-! ### Reading a reply -/

/-- What bounds a wait for the first byte that began at `start`: what has arrived, and the time that
is left. -/
def patience (start timeout : Duration) (link : Link) : Nat :=
  link.incoming.length + (start + timeout - link.clock).nanos

/-- A read that times out early uses up an arrival or, where nothing has arrived, some of the time
that is left. -/
theorem patience_lt {start timeout : Duration} {link next : Link} {room : Nat}
    {failure : IoFailure} (notice : Notice) (hread : link.read room = (.error failure, next))
    (htimedOut : failure.kind = .timedOut) (hearly : next.clock - start < timeout) :
    patience start timeout (next.note notice) < patience start timeout link := by
  have hleft : next.clock.nanos - start.nanos < timeout.nanos := hearly
  simp only [patience, Link.note, Duration.nanos_sub, Duration.nanos_add]
  unfold Link.read at hread
  rcases hin : link.incoming with - | ⟨b | ⟨failure', after⟩ | -, rest⟩
  · rw [hin] at hread
    rcases hidle : link.idle with - | wait | -
    · simp only [hidle, Prod.mk.injEq, reduceCtorEq, false_and] at hread
    · simp only [hidle, Prod.mk.injEq, Except.error.injEq] at hread
      obtain ⟨rfl, rfl⟩ := hread
      have hpos := wait.pos
      simp only [Duration.nanos_add] at hleft ⊢
      omega
    · simp only [hidle, Prod.mk.injEq, Except.error.injEq] at hread
      obtain ⟨rfl, rfl⟩ := hread
      cases htimedOut
  · simp only [hin, Prod.mk.injEq, reduceCtorEq, false_and] at hread
  · simp only [hin, Prod.mk.injEq, Except.error.injEq] at hread
    obtain ⟨rfl, rfl⟩ := hread
    simp only [Duration.nanos_add, List.length_cons] at hleft ⊢
    omega
  · simp only [hin, Prod.mk.injEq, reduceCtorEq, false_and] at hread

/-- Reads the first byte of a reply, waiting until `timeout` after `start`. A read that times out
earlier is tried again. -/
def awaitByte (start timeout : Duration) : LinkM UInt8 := fun link ↦
  match hread : link.read 1 with
  | (.ok (b :: _), link') => .ok b link'
  | (.ok [], link') => .error .disconnected link'
  | (.error failure, link') =>
    let elapsed := link'.clock - start
    if hwaits : failure.kind = .timedOut ∧ elapsed < timeout then
      have := patience_lt (.stillWaiting elapsed) hread hwaits.1 hwaits.2
      awaitByte start timeout (link'.note (.stillWaiting elapsed))
    else if failure.kind = .interrupted then
      .error .interrupted (link'.note .interruptedWaiting)
    else .error (.io failure) link'
termination_by link => patience start timeout link

/-- Reads the last `remaining` bytes of a part of `total` bytes. -/
def readRest (total remaining : Nat) : LinkM Bytes := fun link ↦
  if _hr : remaining = 0 then .ok [] link
  else
    match link.read remaining with
    | (.ok [], link') => .error .disconnected link'
    | (.ok (b :: bs), link') =>
      match readRest total (remaining - (bs.length + 1)) link' with
      | .ok rest link' => .ok (b :: bs ++ rest) link'
      | .error e link' => .error e link'
    | (.error failure, link') =>
      if failure.kind = .interrupted then
        .error .interrupted (link'.note (.interruptedReading (total - remaining) total))
      else .error (.io failure) link'
termination_by remaining

/-- Reads a part of `total` bytes. -/
def readExactly (total : Nat) : LinkM Bytes := readRest total total

/-- Reads one frame into a buffer of `capacity` bytes. The payload of a frame that does not fit
stays unread. -/
def receiveFrame (capacity : Nat) (timeout : Duration) : LinkM Bytes := do
  if capacity < Header.byteCount then
    throw (.replyTooLarge Header.byteCount capacity)
  let start := (← get).clock
  let first ← awaitByte start timeout
  let head ← readExactly (Header.byteCount - 1)
  let header := Header.ofBytes first (head.getD 0 0) (head.getD 1 0) (head.getD 2 0)
  if header.frameLength > capacity then
    note (.replyTooLarge header.frameLength capacity)
    throw (.replyTooLarge header.frameLength capacity)
  let payload ← readExactly header.size.toNat
  let frame := first :: head ++ payload
  note (.bytesIn frame)
  return frame

/-- Reads one frame over the start of a buffer: the length of the frame and the buffer afterwards,
whose bytes after the frame are untouched. -/
def receiveInto (buffer : Bytes) (timeout : Duration) : LinkM (Nat × Bytes) := do
  let frame ← receiveFrame buffer.length timeout
  return (frame.length, frame ++ buffer.drop frame.length)

/-- The buffer that replies are read into. -/
def replyCapacity : Nat := 500

end LoraConcentrator.LinkM
