import LoraConcentrator.Proofs.Link.Framing
import LoraConcentrator.Proofs.Link.Portions

/-!
# What stops a reader

Inside a frame every read serves bytes until one of them meets something else: a failure, the end of
the stream, or, when nothing has arrived, what the line then does (`Idle.arrival`). Such a read is
the last one. It takes one arrival, or none when nothing has arrived, and its error says what it met
(`Arrival.error?`).

Main statement: a part of a frame that is cut short fails with just that error, after the bytes that
came before it (`LinkM.readRest_of_stop`).
-/

namespace LoraConcentrator

open Program

/-! ### What a read meets -/

namespace Arrival

/-- The time that a read takes to meet an arrival. -/
def duration : Arrival → Duration
  | failure _ after => after
  | byte _ | endOfFile => ⟨0⟩

/-- What a read finds that meets an arrival. -/
def outcome : Arrival → Except IoFailure Bytes
  | byte b => .ok [b]
  | failure f _ => .error f
  | endOfFile => .ok []

/-- The error of a read that a failure stops. -/
def errorOf (failure : IoFailure) : Error :=
  if failure.kind = .interrupted then .interrupted else .io failure

/-- The error of a frame that an arrival stops, unless it is a byte. -/
def error? : Arrival → Option Error
  | byte _ => none
  | failure f _ => some (errorOf f)
  | endOfFile => some .disconnected

/-- What is no byte ends a read with an error. -/
theorem byte?_eq_none_iff {a : Arrival} : a.byte? = none ↔ ∃ e, a.error? = some e := by
  cases a <;> simp [byte?, error?]

theorem eq_of_byte? {a : Arrival} {b : UInt8} (h : a.byte? = some b) : a = byte b := by
  cases a with
  | byte b' => rw [Option.some.inj h]
  | failure | endOfFile => cases h

end Arrival

/-- What a read meets when nothing has arrived. -/
def Idle.arrival : Idle → Arrival
  | closed => .endOfFile
  | silent wait => .failure Link.timedOut wait.toDuration
  | hungUp => .failure Link.brokenPipe ⟨0⟩

theorem Idle.byte?_arrival (idle : Idle) : idle.arrival.byte? = none := by
  cases idle <;> rfl

namespace Link

/-- What the next read meets. -/
def ahead (link : Link) : Arrival := link.incoming.headD link.idle.arrival

/-- The link after a read that met no byte. -/
def stopped (link : Link) : Link :=
  { link with
    reads := link.reads + 1
    incoming := link.incoming.tail
    clock := link.clock + link.ahead.duration }

variable {link : Link}

/-- A byte that a read meets has arrived. -/
theorem exists_of_byte?_ahead {b : UInt8} (h : link.ahead.byte? = some b) :
    ∃ rest, link.incoming = .byte b :: rest := by
  rw [ahead] at h
  match hin : link.incoming with
  | [] =>
    rw [hin, List.headD_nil, link.idle.byte?_arrival] at h
    cases h
  | .byte b' :: rest =>
    rw [hin] at h
    obtain rfl := Option.some.inj h
    exact ⟨rest, rfl⟩
  | .failure _ _ :: rest | .endOfFile :: rest =>
    rw [hin] at h
    cases h

/-- A read that meets no byte finds what it meets, however much room there is. -/
theorem read_of_ahead (h : link.ahead.byte? = none) (room : Nat) :
    link.read room = (link.ahead.outcome, link.stopped) := by
  rw [ahead] at h
  simp only [read, ahead, stopped]
  rcases hin : link.incoming with - | ⟨b | ⟨failure, after⟩ | -, rest⟩
  · rcases hidle : link.idle with - | readTimeout | -
    all_goals rfl
  · rw [hin] at h
    cases h
  all_goals rfl

/-- A read serves bytes from the front of what has arrived. -/
theorem incoming_of_read_ok {room : Nat} {b : UInt8} {bs : Bytes} {next : Link} (hroom : 0 < room)
    (h : link.read room = (.ok (b :: bs), next)) :
    link.incoming = (b :: bs).map .byte ++ next.incoming := by
  rcases ha : link.ahead.byte? with - | b'
  · rw [link.read_of_ahead ha, Prod.mk.injEq] at h
    rcases hahead : link.ahead with b' | ⟨failure, after⟩ | -
    · rw [hahead] at ha
      cases ha
    all_goals
      rw [hahead] at h
      cases h.1
  · obtain ⟨rest, hin⟩ := exists_of_byte?_ahead ha
    obtain ⟨bs', rest', -, hin', hread⟩ := exists_read_of_byte hin hroom
    rw [hread] at h
    cases h
    exact hin'

end Link

/-- The number of bytes that are read of a frame with such a start: all of the frame, or its header
if the frame does not fit the buffer. -/
def Frame.extent (capacity : Nat) : Bytes → Nat
  | id :: high :: low :: tag :: _ =>
    let length := (Header.ofBytes id high low tag).frameLength
    if length ≤ capacity then length else Header.byteCount
  | _ => Header.byteCount

namespace LinkM

open Link

/-- A byte of a part that is not there fails with what stands in its place. -/
theorem readByte_of_ahead (total remaining : Nat) (link : Link) {e : Error}
    (h : link.ahead.error? = some e) :
    ∃ link', readByte total remaining link = .error e link' ∧
      link'.incoming = link.incoming.tail ∧ link'.clock = link.clock + link.ahead.duration := by
  have hread := link.read_of_ahead (Arrival.byte?_eq_none_iff.2 ⟨e, h⟩) 1
  have hclock : link.stopped.clock = link.clock + link.ahead.duration := rfl
  rw [readByte, hread]
  rcases ha : link.ahead with b | ⟨failure, after⟩ | -
  · rw [ha] at h
    cases h
  · rw [ha] at h
    obtain rfl := Option.some.inj h
    simp only [Arrival.outcome, Arrival.errorOf]
    by_cases hk : failure.kind = .interrupted
    · rw [if_pos hk, if_pos hk]
      exact ⟨_, rfl, rfl, ha ▸ hclock⟩
    · rw [if_neg hk, if_neg hk]
      exact ⟨_, rfl, rfl, ha ▸ hclock⟩
  · rw [ha] at h
    obtain rfl := Option.some.inj h
    exact ⟨_, rfl, rfl, ha ▸ hclock⟩

/-- A part of a frame that is cut short fails with what stops it, after the bytes that came. -/
theorem readRest_of_stop (total : Nat) {remaining : Nat} {link : Link} {bs : Bytes}
    {stop : List Arrival} {e : Error} (h : link.incoming = bs.map .byte ++ stop)
    (hlen : bs.length < remaining) (hstop : (stop.headD link.idle.arrival).error? = some e) :
    ∃ link', readRest total remaining link = .error e link' ∧ link'.incoming = stop.tail ∧
      link'.clock = link.clock + (stop.headD link.idle.arrival).duration := by
  obtain ⟨missing, rfl⟩ := Nat.exists_eq_add_of_lt hlen
  -- byte by byte, the bytes that came are read and the next one is not
  have hbytes := readBytewise_of_incoming total (missing + 1) h
  obtain ⟨next, hfail, hin, hclock⟩ := readByte_of_ahead total (missing + 1) { link with
    reads := link.reads + bs.length, incoming := stop } hstop
  rw [readBytewise, map_of_error _ (bind_of_error hfail)] at hbytes
  have hagree := agree_readRest_readBytewise total (bs.length + (missing + 1)) link
  rw [hbytes] at hagree
  rcases hrest : readRest total (bs.length + (missing + 1)) link with ⟨bs', link'⟩ | ⟨e', link'⟩
  · rw [hrest] at hagree
    cases hagree
  · rw [hrest] at hagree
    obtain - | ⟨limit, reads, rfl⟩ := hagree
    exact ⟨link', rfl, hin, hclock⟩

/-- While bytes are there, a part of a frame is read at once, on the same line. -/
theorem readRest_at_once (total : Nat) {link : Link} {bs : Bytes} {rest : List Arrival}
    (h : link.incoming = bs.map .byte ++ rest) :
    ∃ link', readRest total bs.length link = .ok bs link' ∧ link'.incoming = rest ∧
      link'.idle = link.idle ∧ link'.clock = link.clock := by
  have hbytes : readBytewise total bs.length link =
      .ok (bs ++ []) { link with reads := link.reads + bs.length, incoming := rest } :=
    readBytewise_of_incoming total 0 h
  rw [List.append_nil] at hbytes
  have hagree := (agree_readRest_readBytewise total bs.length link).symm
  rw [hbytes] at hagree
  obtain ⟨_, hrest, limit, reads, rfl⟩ := hagree.exists_of_ok rfl
  exact ⟨_, hrest, rfl, rfl, rfl⟩

/-- A frame that is cut short after its first byte fails with what stops it. -/
theorem receiveAfter_of_stop {capacity : Nat} {first : UInt8} {link : Link} {bs : Bytes}
    {stop : List Arrival} {e : Error} (h : link.incoming = bs.map .byte ++ stop)
    (hcut : (first :: bs).length < Frame.extent capacity (first :: bs))
    (hstop : (stop.headD link.idle.arrival).error? = some e) :
    ∃ link', receiveAfter capacity first link = .error e link' ∧ link'.incoming = stop.tail ∧
      link'.clock = link.clock + (stop.headD link.idle.arrival).duration := by
  by_cases hhead : bs.length < Header.byteCount - 1
  · obtain ⟨link', hrest, hlink'⟩ := readRest_of_stop (Header.byteCount - 1) h hhead hstop
    exact ⟨link', bind_of_error hrest, hlink'⟩
  match bs, hhead, h, hcut with
  | [], hhead, _, _ | [_], hhead, _, _ | [_, _], hhead, _, _ =>
    exact absurd (by simp [Header.byteCount]) hhead
  | high :: low :: tag :: bs, _, h, hcut =>
    have hbytes : link.incoming = [high, low, tag].map .byte ++ (bs.map .byte ++ stop) := h
    obtain ⟨link₁, hhead, hin, hidle, hclock⟩ := readRest_at_once (Header.byteCount - 1) hbytes
    have hfits : (Header.ofBytes first high low tag).frameLength ≤ capacity := by
      refine of_not_not fun hlarge ↦ ?_
      rw [Frame.extent, if_neg hlarge] at hcut
      exact absurd hcut (Nat.not_lt_of_le (Nat.le_add_left _ _))
    rw [Frame.extent, if_pos hfits] at hcut
    have hlen : bs.length < (Header.ofBytes first high low tag).size.toNat := by
      rw [Header.frameLength, Header.byteCount] at hcut
      simp only [List.length_cons] at hcut
      omega
    rw [← hidle] at hstop
    obtain ⟨link', hrest, hin', hclock'⟩ :=
      readRest_of_stop (Header.ofBytes first high low tag).size.toNat hin hlen hstop
    refine ⟨link', ?_, hin', by rw [hclock', hclock, hidle]⟩
    simp only [receiveAfter]
    refine bind_eq_error_iff.2 (.inr ⟨_, _, hhead, ?_⟩)
    simp only [List.getD_cons_zero, List.getD_cons_succ, if_neg (Nat.not_lt_of_le hfits)]
    exact bind_of_error hrest

end LinkM

end LoraConcentrator
