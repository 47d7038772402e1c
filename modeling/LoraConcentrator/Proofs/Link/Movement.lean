import LoraConcentrator.Link.Framing
import LoraConcentrator.Proofs.Program

/-!
# What a link gives and takes

Seen from the host, a link has two sides that only ever move forwards: the bytes it accepted, which
grow, and what reads will still meet, which shrinks. What the device will answer belongs to the
second side from the start (`Link.stream`), so that handing over what was written moves nothing.

`Link.Moved sent taken` says by how much both sides moved. Movements add up (`Link.Moved.trans`), so
what a program does to a link is the sum of what its reads and writes do.
-/

namespace LoraConcentrator

/-! ### Bytes among arrivals -/

namespace Arrival

/-- The byte of an arrival, if it is one. -/
def byte? : Arrival → Option UInt8
  | byte b => some b
  | failure .. | endOfFile => none

/-- The bytes among arrivals. -/
def bytes (arrivals : List Arrival) : Bytes := arrivals.filterMap byte?

/-- Whether an arrival is a read that fails. -/
def isFailure : Arrival → Bool
  | failure .. => true
  | byte _ | endOfFile => false

/-- The bytes of arrivals come in their order. -/
@[simp]
theorem bytes_append (as bs : List Arrival) : bytes (as ++ bs) = bytes as ++ bytes bs :=
  List.filterMap_append

@[simp]
theorem bytes_map_byte (bs : Bytes) : bytes (bs.map byte) = bs := by
  rw [bytes, List.filterMap_map]
  exact List.filterMap_some

/-- Reads that fail bring no bytes. -/
theorem bytes_eq_nil_of_isFailure {as : List Arrival} (h : ∀ a ∈ as, a.isFailure) :
    bytes as = [] := by
  rw [bytes, List.filterMap_eq_nil_iff]
  intro a ha
  cases a with
  | failure => rfl
  | byte | endOfFile => cases h _ ha

/-- Waits hold no bytes. -/
theorem bytes_waits_append {waits : List Arrival} (h : ∀ a ∈ waits, a.isFailure) (bs : Bytes) :
    bytes (waits ++ bs.map byte) = bs := by
  rw [bytes_append, bytes_eq_nil_of_isFailure h, bytes_map_byte, List.nil_append]

end Arrival

namespace Link

/-! ### Movements -/

/-- Everything that reads can still meet: what has arrived and then what the device will answer. -/
def stream (link : Link) : List Arrival := link.incoming ++ link.answers.flatten.map .byte

/-- The link accepted the bytes `sent` and gave up the arrivals `taken`. -/
structure Moved (sent : Bytes) (taken : List Arrival) (link link' : Link) : Prop where
  sent_eq : link'.sent = link.sent ++ sent
  stream_eq : link.stream = taken ++ link'.stream

namespace Moved

variable {link link' link'' : Link} {sent sent' : Bytes} {taken taken' : List Arrival}

theorem refl (link : Link) : Moved [] [] link link where
  sent_eq := (List.append_nil _).symm
  stream_eq := rfl

/-- Movements add up. -/
theorem trans (h : Moved sent taken link link') (h' : Moved sent' taken' link' link'') :
    Moved (sent ++ sent') (taken ++ taken') link link'' where
  sent_eq := by rw [h'.sent_eq, h.sent_eq, List.append_assoc]
  stream_eq := by rw [h.stream_eq, h'.stream_eq, List.append_assoc]

/-- What leaves both sides alone may follow. -/
theorem trans_unmoved (h : Moved sent taken link link') (h' : Moved [] [] link' link'') :
    Moved sent taken link link'' := by
  have := h.trans h'
  rwa [List.append_nil, List.append_nil] at this

/-- What leaves both sides alone may come first. -/
theorem unmoved_trans (h : Moved [] [] link link') (h' : Moved sent taken link' link'') :
    Moved sent taken link link'' :=
  h.trans h'

/-- A movement that takes from what has arrived. -/
theorem of_incoming (hs : link'.sent = link.sent) (ha : link'.answers = link.answers)
    (hi : link.incoming = taken ++ link'.incoming) : Moved [] taken link link' where
  sent_eq := by rw [hs, List.append_nil]
  stream_eq := by rw [stream, stream, hi, ha, List.append_assoc]

/-- A notice moves nothing, before a movement or after it. -/
theorem of_note {notice : Notice} (h : Moved sent taken (link.note notice) link') :
    Moved sent taken link link' :=
  ⟨h.sent_eq, h.stream_eq⟩

theorem note (h : Moved sent taken link link') (notice : Notice) :
    Moved sent taken link (link'.note notice) :=
  ⟨h.sent_eq, h.stream_eq⟩

/-- Time that passes moves nothing. -/
theorem pass (h : Moved sent taken link link') (time : Duration) :
    Moved sent taken link (link'.pass time) :=
  ⟨h.sent_eq, h.stream_eq⟩

end Moved

/-! ### One read -/

/-- What is taken and what is left are the arrivals, in order. -/
theorem map_takeBytes_append (n : Nat) (arrivals : List Arrival) :
    (takeBytes n arrivals).1.map .byte ++ (takeBytes n arrivals).2 = arrivals := by
  fun_induction takeBytes n arrivals with
  | case1 n b rest bs rest' h ih =>
    rw [h] at ih
    rw [List.map_cons, List.cons_append, ih]
  | case2 => rfl

/-- No more bytes are taken than asked for. -/
theorem length_takeBytes_le (n : Nat) (arrivals : List Arrival) :
    (takeBytes n arrivals).1.length ≤ n := by
  fun_induction takeBytes n arrivals with
  | case1 n b rest bs rest' h ih =>
    rw [h] at ih
    exact Nat.succ_le_succ ih
  | case2 n => exact Nat.zero_le n

theorem serving_le (link : Link) (room : Nat) : link.serving room ≤ room := by
  show (if link.readLimit link.reads = 0 then room else min (link.readLimit link.reads) room) ≤ room
  split
  · exact Nat.le_refl room
  · exact Nat.min_le_right _ _

/-- A read into some room serves at least one byte. -/
theorem serving_pos (link : Link) {room : Nat} (h : 0 < room) : 0 < link.serving room := by
  show 0 < if link.readLimit link.reads = 0 then room else min (link.readLimit link.reads) room
  split <;> omega

/-- A read into one byte of room serves that byte. -/
theorem serving_one (link : Link) : link.serving 1 = 1 :=
  Nat.le_antisymm (link.serving_le 1) (link.serving_pos Nat.one_pos)

variable {link link' : Link} {room : Nat}

/-- A read that serves bytes takes just them. -/
theorem moved_read_of_ok {b : UInt8} {bs : Bytes} (h : link.read room = (.ok (b :: bs), link')) :
    Moved [] ((b :: bs).map .byte) link link' ∧ bs.length + 1 ≤ room := by
  unfold read at h
  split at h
  · cases h
  · cases h
  · rename_i b' rest hin
    have hall := map_takeBytes_append (link.serving room) link.incoming
    have hlen := length_takeBytes_le (link.serving room) link.incoming
    have hbs := Except.ok.inj (Prod.mk.inj h).1
    rw [hbs] at hall hlen
    rw [← (Prod.mk.inj h).2]
    exact ⟨.of_incoming rfl rfl hall.symm, Nat.le_trans hlen (serving_le link room)⟩
  · split at h <;> cases h

/-- A read that fails takes at most the failure. -/
theorem moved_read_of_error {failure : IoFailure} (h : link.read room = (.error failure, link')) :
    ∃ taken, (∀ a ∈ taken, a.isFailure) ∧ Moved [] taken link link' := by
  unfold read at h
  split at h
  · rename_i failure' after rest hin
    rw [← (Prod.mk.inj h).2]
    refine ⟨[.failure failure' after], ?_, .of_incoming rfl rfl hin⟩
    intro a ha
    rw [List.mem_singleton.1 ha]
    rfl
  · cases h
  · cases h
  · split at h
    · cases h
    all_goals
      rw [← (Prod.mk.inj h).2]
      exact ⟨[], List.forall_mem_nil _, .of_incoming rfl rfl rfl⟩

/-- A read that finds the stream ended takes at most that mark. -/
theorem moved_read_of_nil (h : link.read room = (.ok [], link')) :
    ∃ taken, Moved [] taken link link' := by
  unfold read at h
  split at h
  · cases h
  · rename_i rest hin
    rw [← (Prod.mk.inj h).2]
    exact ⟨[.endOfFile], .of_incoming rfl rfl hin⟩
  · rename_i b rest hin
    rw [← (Prod.mk.inj h).2]
    exact ⟨_, .of_incoming rfl rfl (map_takeBytes_append (link.serving room) link.incoming).symm⟩
  · split at h
    · rw [← (Prod.mk.inj h).2]
      exact ⟨[], .of_incoming rfl rfl rfl⟩
    · cases h
    · cases h

/-- Whatever a read meets, it takes some arrivals and nothing is written. -/
theorem exists_moved_read {outcome : Except IoFailure Bytes}
    (h : link.read room = (outcome, link')) : ∃ taken, Moved [] taken link link' := by
  match outcome, h with
  | .error _, h =>
    obtain ⟨taken, -, hm⟩ := moved_read_of_error h
    exact ⟨taken, hm⟩
  | .ok [], h => exact moved_read_of_nil h
  | .ok (_ :: _), h => exact ⟨_, (moved_read_of_ok h).1⟩

/-! ### Reading what has arrived -/

/-- Bytes that are there are taken, as many as asked for. -/
theorem takeBytes_map_byte_append {n : Nat} {bs : Bytes} (h : n ≤ bs.length)
    (rest : List Arrival) :
    takeBytes n (bs.map .byte ++ rest) = (bs.take n, (bs.drop n).map .byte ++ rest) := by
  induction n generalizing bs with
  | zero =>
    rw [takeBytes]
    · rfl
    · intro n b rest' h0
      omega
  | succ n ih =>
    match bs, h with
    | b :: bs, h =>
      rw [List.map_cons, List.cons_append, takeBytes, ih (Nat.le_of_succ_le_succ h)]
      rfl

/-- A read serves some of the bytes that have arrived, as many as the link likes. -/
theorem read_of_incoming {bs : Bytes} {rest : List Arrival}
    (h : link.incoming = bs.map .byte ++ rest) (hpos : 0 < room) (hle : room ≤ bs.length) :
    ∃ n, 0 < n ∧ n ≤ room ∧
      link.read room =
        (.ok (bs.take n),
          { link with reads := link.reads + 1, incoming := (bs.drop n).map .byte ++ rest }) := by
  refine ⟨link.serving room, link.serving_pos hpos, link.serving_le room, ?_⟩
  have htake := takeBytes_map_byte_append (Nat.le_trans (link.serving_le room) hle) rest
  cases bs with
  | nil => exact absurd hle (Nat.not_le_of_lt hpos)
  | cons b bs =>
    rw [List.map_cons, List.cons_append] at h htake
    simp only [read, h, htake]

/-! ### One write and one flush -/

/-- What a write accepts moves the one side only. -/
theorem moved_written (link : Link) (bs : Bytes) : Moved bs [] link (link.written bs) := ⟨rfl, rfl⟩

/-- A write that accepts bytes takes them from the front of those offered. -/
theorem moved_write_of_ok {bs : Bytes} {n : Nat} (h : link.write bs = (.ok n, link')) :
    Moved (bs.take n) [] link link' := by
  unfold write at h
  split at h
  · cases h
  · cases h
    exact link.moved_written []
  · split at h
    · cases h
    · cases h
      exact link.moved_written _

/-- A write that fails accepts nothing. -/
theorem moved_write_of_error {bs : Bytes} {failure : IoFailure}
    (h : link.write bs = (.error failure, link')) : Moved [] [] link link' := by
  unfold write at h
  split at h
  · cases h
    exact link.moved_written []
  · cases h
  · split at h
    · cases h
      exact link.moved_written []
    · cases h

/-- Handing over turns what the device will answer into what has arrived. -/
theorem moved_flushed (link : Link) : Moved [] [] link link.flushed where
  sent_eq := (List.append_nil _).symm
  stream_eq := by
    rcases hanswers : link.answers with - | ⟨answer, rest⟩
    · simp only [stream, flushed, hanswers, List.headD_nil, List.tail_nil, List.map_nil,
        List.append_nil, List.nil_append]
    · simp only [stream, flushed, hanswers, List.headD_cons, List.tail_cons, List.flatten_cons,
        List.map_append, List.append_assoc, List.nil_append]

/-- Both sides of a link stay as they are at a flush, also at one that fails. -/
theorem moved_flush {outcome : Except IoFailure Unit} (h : link.flush = (outcome, link')) :
    Moved [] [] link link' := by
  unfold flush at h
  split at h
  · cases h
    exact .of_incoming rfl rfl rfl
  · split at h
    · cases h
      exact .of_incoming rfl rfl rfl
    · cases h
      exact link.moved_flushed

end Link

end LoraConcentrator
