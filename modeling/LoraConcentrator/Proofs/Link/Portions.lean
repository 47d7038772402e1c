import LoraConcentrator.Proofs.Link.Lockstep
import LoraConcentrator.Proofs.Link.Movement

/-!
# Portions that reads serve

A read serves some of the bytes that have arrived, and how many is up to the link. Two links that
differ in nothing else than these portions (`Link.SameButPortions`) give different bytes to one and
the same read, so their runs do not line up read by read.

They line up byte by byte. A part of a frame ends as if each of its bytes were read alone
(`LinkM.agree_readRest_readBytewise`), also where a read fails or finds the stream ended in the
middle of the part, and a read of a single byte is the same on both links. The wait for the first
byte of a frame reads single bytes anyway. Main statement: no program of the library can tell
portions (`Link.hidden_sameButPortions`).
-/

namespace LoraConcentrator

open Program

namespace Link

/-! ### Links but for their portions -/

/-- The link with other portions, after that many reads. -/
def withPortions (limit : Nat → Nat) (reads : Nat) (link : Link) : Link :=
  { link with readLimit := limit, reads := reads }

/-- The links are the same, but their reads may serve other portions. -/
def SameButPortions (link link' : Link) : Prop :=
  ∃ limit reads, link' = link.withPortions limit reads

instance : IsEquiv Link SameButPortions where
  refl link := ⟨link.readLimit, link.reads, rfl⟩
  symm link _ := by
    rintro ⟨limit, reads, rfl⟩
    exact ⟨link.readLimit, link.reads, rfl⟩
  trans _ _ _ := by
    rintro ⟨limit, reads, rfl⟩ ⟨limit', reads', rfl⟩
    exact ⟨limit', reads', rfl⟩

/-! ### One read -/

/-- A read into one byte of room finds the same whatever the portions are. -/
theorem readsAlike_one : ReadsAlike SameButPortions 1 := by
  rintro link _ next outcome ⟨limit, reads, rfl⟩ hread
  obtain rfl : (link.read 1).1 = outcome := congrArg Prod.fst hread
  obtain rfl : (link.read 1).2 = next := congrArg Prod.snd hread
  refine ⟨(link.read 1).2.withPortions limit (reads + 1), ?_, limit, reads + 1, rfl⟩
  unfold read
  simp only [serving_one]
  rcases hin : link.incoming with - | ⟨b | ⟨failure, after⟩ | -, rest⟩
  · cases hidle : link.idle <;> simp only [withPortions, hin, hidle]
  all_goals simp only [withPortions, hin]

variable {link : Link} {rest : List Arrival} {b : UInt8} {room : Nat}

/-- A read that meets a byte serves that byte and some of those behind it. -/
theorem exists_read_of_byte (h : link.incoming = .byte b :: rest) (hroom : 0 < room) :
    ∃ bs rest', bs.length < room ∧ link.incoming = (b :: bs).map .byte ++ rest' ∧
      link.read room =
        (.ok (b :: bs), { link with reads := link.reads + 1, incoming := rest' }) := by
  obtain ⟨n, hn⟩ := Nat.exists_eq_succ_of_ne_zero (Nat.ne_of_gt (link.serving_pos hroom))
  refine ⟨(takeBytes n rest).1, (takeBytes n rest).2, ?_, ?_, ?_⟩
  · have hle := length_takeBytes_le n rest
    have hserving := link.serving_le room
    omega
  · rw [List.map_cons, List.cons_append, map_takeBytes_append, h]
  · simp only [read, h, hn, takeBytes]

/-- A read that meets no byte serves none, however much room there is. -/
theorem read_of_forall_ne (h : ∀ b rest, link.incoming ≠ .byte b :: rest) (room : Nat) :
    link.read room = link.read 1 ∧ ∀ b bs next, link.read 1 ≠ (.ok (b :: bs), next) := by
  unfold read
  rcases hin : link.incoming with - | ⟨b | ⟨failure, after⟩ | -, rest⟩
  · refine ⟨rfl, fun b bs next hread ↦ ?_⟩
    cases hidle : link.idle <;> simp [hidle] at hread
  · exact absurd hin (h b rest)
  all_goals exact ⟨rfl, fun b bs next hread ↦ by simp at hread⟩

end Link

namespace LinkM

/-! ### Byte by byte -/

/-- Reads a byte of a part of `total` bytes, of which `remaining` are missing. -/
def readByte (total remaining : Nat) : LinkM UInt8 := fun link ↦
  match link.read 1 with
  | (.ok [], link') => .error .disconnected link'
  | (.ok (b :: _), link') => .ok b link'
  | (.error failure, link') =>
    if failure.kind = .interrupted then
      .error .interrupted (link'.note (.interruptedReading (total - remaining) total))
    else .error (.io failure) link'

/-- Reads the last `remaining` bytes of a part of `total` bytes, each of them alone. -/
def readBytewise (total : Nat) : (remaining : Nat) → LinkM Bytes
  | 0 => return []
  | remaining + 1 => do
    let b ← readByte total (remaining + 1)
    let bs ← readBytewise total remaining
    return b :: bs

open Link

/-- One byte is read the same in whatever portions. -/
theorem lockstep_readByte (total remaining : Nat) :
    Lockstep SameButPortions (readByte total remaining) (readByte total remaining) := by
  intro link link' hl
  rcases hread : link.read 1 with ⟨outcome, next⟩
  obtain ⟨next', hread', hnext⟩ := readsAlike_one hl hread
  unfold readByte
  rw [hread, hread']
  match outcome with
  | .ok [] => exact .error hnext
  | .ok (b :: bs) => exact .ok hnext
  | .error failure =>
    dsimp only
    split
    · obtain ⟨limit, reads, rfl⟩ := hnext
      exact .error ⟨limit, reads, rfl⟩
    · exact .error hnext

/-- Bytes that are read one by one are read the same in whatever portions. -/
theorem lockstep_readBytewise (total remaining : Nat) :
    Lockstep SameButPortions (readBytewise total remaining) (readBytewise total remaining) := by
  induction remaining with
  | zero => exact .pure []
  | succ remaining ih => exact (lockstep_readByte _ _).bind fun b ↦ ih.bind fun bs ↦ .pure _

theorem readByte_of_incoming (total remaining : Nat) {b : UInt8} {rest : List Arrival}
    {link : Link} (h : link.incoming = .byte b :: rest) :
    readByte total remaining link =
      .ok b { link with reads := link.reads + 1, incoming := rest } := by
  obtain ⟨bs, rest', hlt, hin, hread⟩ := exists_read_of_byte h Nat.one_pos
  obtain rfl : bs = [] := List.length_eq_zero_iff.1 (Nat.lt_one_iff.1 hlt)
  obtain rfl : rest = rest' := (List.cons.inj (h.symm.trans hin)).2
  rw [readByte, hread]

/-- Bytes that have arrived are read one after the other. -/
theorem readBytewise_of_incoming (total remaining : Nat) {bs : Bytes} {rest : List Arrival}
    {link : Link} (h : link.incoming = bs.map .byte ++ rest) :
    readBytewise total (bs.length + remaining) link =
      ((bs ++ ·) <$> readBytewise total remaining)
        { link with reads := link.reads + bs.length, incoming := rest } := by
  induction bs generalizing link with
  | nil =>
    obtain rfl : link.incoming = rest := h
    rw [List.length_nil, Nat.zero_add]
    exact congrFun (id_map _).symm link
  | cons b bs ih =>
    have hlength : (b :: bs).length + remaining = bs.length + remaining + 1 := by
      rw [List.length_cons, Nat.add_right_comm]
    rw [hlength, readBytewise, bind_of_ok (readByte_of_incoming _ _ h), ← map_eq_bind]
    have hin : ({ link with
        reads := link.reads + 1, incoming := bs.map .byte ++ rest } : Link).incoming =
          bs.map .byte ++ rest := rfl
    have hbytes := ih hin
    have hreads : link.reads + (b :: bs).length = link.reads + 1 + bs.length := by
      rw [List.length_cons, Nat.add_assoc, Nat.add_comm bs.length]
    rw [hreads]
    rcases hrest : readBytewise total remaining { link with
        reads := link.reads + 1 + bs.length, incoming := rest } with ⟨bs', link'⟩ | ⟨e, link'⟩
    · rw [map_of_ok _ hrest] at hbytes ⊢
      exact map_of_ok _ hbytes
    · rw [map_of_error _ hrest] at hbytes ⊢
      exact map_of_error _ hbytes

/-- What the first read of a part serves stands in front of the rest of the part. -/
theorem readRest_of_served {total remaining : Nat} {link next : Link} {b : UInt8} {bs : Bytes}
    (h : link.read (bs.length + 1 + remaining) = (.ok (b :: bs), next)) :
    readRest total (bs.length + 1 + remaining) link =
      ((b :: bs ++ ·) <$> readRest total remaining) next := by
  have hnone : bs.length + 1 + remaining ≠ 0 := by omega
  rw [readRest_of_read hnone h]
  dsimp only
  rw [Nat.add_sub_cancel_left]

/-- A part whose next read serves nothing ends there, however much of it is missing. -/
theorem readRest_of_forall_ne {total remaining : Nat} {link : Link}
    (h : ∀ b rest, link.incoming ≠ .byte b :: rest) :
    readRest total (remaining + 1) link = readBytewise total (remaining + 1) link := by
  obtain ⟨hroom, hnone⟩ := read_of_forall_ne h (remaining + 1)
  rw [readRest, dif_neg (Nat.succ_ne_zero remaining), hroom, readBytewise]
  symm
  rcases hread : link.read 1 with ⟨failure | (- | ⟨b, bs⟩), next⟩
  · dsimp only
    split
    · rename_i hinterrupted
      refine bind_of_error ?_
      rw [readByte, hread]
      exact if_pos hinterrupted
    · rename_i hinterrupted
      refine bind_of_error ?_
      rw [readByte, hread]
      exact if_neg hinterrupted
  · refine bind_of_error ?_
    rw [readByte, hread]
  · exact absurd hread (hnone b bs next)

/-- A part ends as if its bytes were read one by one. By induction on the bytes that are missing:
those that the first read serves are read one by one as well. -/
theorem agree_readRest_readBytewise (total remaining : Nat) (link : Link) :
    Agree SameButPortions (readRest total remaining link) (readBytewise total remaining link) := by
  induction remaining using Nat.strongRecOn generalizing link with
  | ind remaining ih =>
    match remaining with
    | 0 =>
      rw [readRest]
      exact .ok (Std.Refl.refl link)
    | remaining + 1 =>
      by_cases hbyte : ∃ b rest, link.incoming = .byte b :: rest
      · obtain ⟨b, rest, hin⟩ := hbyte
        obtain ⟨bs, rest', hlt, hin', hread⟩ := exists_read_of_byte hin (Nat.zero_lt_succ remaining)
        obtain ⟨missing, hmissing⟩ : ∃ missing, remaining + 1 = bs.length + 1 + missing :=
          Nat.exists_eq_add_of_le hlt
        have hbytes := readBytewise_of_incoming total missing hin'
        rw [List.length_cons] at hbytes
        rw [Nat.succ_eq_add_one] at hread
        rw [hmissing] at hread ⊢
        rw [readRest_of_served hread, hbytes]
        -- the two ways to read the rest of the part start after as many bytes, but not reads
        refine Agree.map _ ((ih missing (by omega) _).trans ?_)
        exact lockstep_readBytewise total missing
          ⟨link.readLimit, link.reads + (bs.length + 1), rfl⟩
      · rw [readRest_of_forall_ne fun b rest h ↦ hbyte ⟨b, rest, h⟩]
        exact lockstep_readBytewise total _ (Std.Refl.refl link)

/-- Portions do not show in a part of a frame. -/
theorem lockstep_readRest (total remaining : Nat) :
    Lockstep SameButPortions (readRest total remaining) (readRest total remaining) := by
  intro link link' hl
  have hbytes := lockstep_readBytewise total remaining hl
  exact ((agree_readRest_readBytewise total remaining link).trans hbytes).trans
    (agree_readRest_readBytewise total remaining link').symm

end LinkM

namespace Link

/-- No program of the library can tell which portions reads serve. -/
theorem hidden_sameButPortions : Hidden SameButPortions where
  clock_eq := by
    rintro _ _ ⟨limit, reads, rfl⟩
    rfl
  incoming_eq := by
    rintro _ _ ⟨limit, reads, rfl⟩
    rfl
  note notice := by
    rintro ⟨limit, reads, rfl⟩
    exact ⟨limit, reads, rfl⟩
  readOne := readsAlike_one
  readRest := LinkM.lockstep_readRest
  answers_eq := by
    rintro _ _ ⟨limit, reads, rfl⟩
    rfl
  pass time := by
    rintro ⟨limit, reads, rfl⟩
    exact ⟨limit, reads, rfl⟩
  close := by
    rintro link _ ⟨limit, reads, rfl⟩
    refine ⟨limit, reads, ?_⟩
    unfold Link.close
    rcases hport : link.port with - | path
    · simp only [withPortions, hport]
    · simp only [withPortions, hport]
      rfl
  writeAll := by
    refine lockstep_writeAll ?_ ?_
    · rintro _ _ ⟨limit, reads, rfl⟩
      exact ⟨rfl, rfl, rfl⟩
    · rintro _ _ bs ⟨limit, reads, rfl⟩
      exact ⟨limit, reads, rfl⟩
  flush := by
    refine lockstep_flush ?_ ?_ ?_
    · rintro _ _ ⟨limit, reads, rfl⟩
      rfl
    · rintro _ _ ⟨limit, reads, rfl⟩
      exact ⟨limit, reads, rfl⟩
    · rintro _ _ ⟨limit, reads, rfl⟩ -
      exact ⟨limit, reads, rfl⟩
  opening_eq := by
    rintro _ _ ⟨limit, reads, rfl⟩
    rfl
  paths_eq := by
    rintro _ _ ⟨limit, reads, rfl⟩
    rfl
  attempt path settings := by
    rintro ⟨limit, reads, rfl⟩
    exact ⟨limit, reads, rfl⟩
  clear path wait := by
    rintro ⟨limit, reads, rfl⟩
    exact ⟨limit, reads, rfl⟩

end Link

end LoraConcentrator
