import LoraConcentrator.Proofs.Link.Lockstep
import LoraConcentrator.Proofs.Link.Movement
import LoraConcentrator.Proofs.Wire.Frame
import Mathlib.Data.List.Basic

/-!
# Frames given and taken

What writing a request and reading a frame do to a link, by outcome. A request that is written moves
the link by its frame (`sendRequest_ok`), and a frame that is read by just its bytes, after the
reads that failed before its first one (`receiveFrame_ok`). Either can stop inside a frame, and
every error with which that happens says so: it desynchronizes the link (`sendRequest_error`,
`receiveFrame_error`).
-/

namespace LoraConcentrator.LinkM

open Link Program

variable {link link' : Link}

/-- A value that is given leaves the link as it is. -/
theorem ofExcept_eq_ok_iff {α : Type} {x : Except Error α} {a : α} :
    ofExcept x link = .ok a link' ↔ x = .ok a ∧ link' = link := by
  cases x with
  | ok b =>
    rw [ofExcept, pure_eq_ok_iff, Except.ok.injEq, eq_comm]
  | error e =>
    rw [ofExcept, throw_ne_ok]
    simp only [reduceCtorEq, false_and]

theorem ofExcept_eq_error_iff {α : Type} {x : Except Error α} {e : Error} :
    ofExcept x link = .error e link' ↔ x = .error e ∧ link' = link := by
  cases x with
  | ok b =>
    rw [ofExcept, pure_ne_error]
    simp only [reduceCtorEq, false_and]
  | error e' =>
    rw [ofExcept, throw_eq_error_iff, Except.error.injEq, eq_comm]

/-- A notice is recorded and nothing else. -/
theorem note_eq_ok_iff {notice : Notice} {u : Unit} :
    note notice link = .ok u link' ↔ link' = link.note notice := by
  constructor
  · intro h
    cases h
    rfl
  · rintro rfl
    rfl

theorem note_ne_error {notice : Notice} {e : Error} :
    note notice link = .error e link' ↔ False := by
  constructor
  · intro h
    cases h
  · exact False.elim

/-! ### Writing -/

/-- What was written in full was accepted as it stands, however it was cut. -/
theorem writeAll_ok {bs : Bytes} (h : writeAll bs link = .ok () link') :
    Moved bs [] link link' := by
  fun_induction writeAll bs link with
  | case1 =>
    cases h
    exact .refl _
  | case2 => cases h
  | case3 bs link hbs n link₁ hw _ ih =>
    have hm := (moved_write_of_ok hw).trans (ih h)
    rwa [List.take_append_drop] at hm
  | case4 bs link hbs failure link₁ hw hk _ ih =>
    exact (moved_write_of_error hw).unmoved_trans (ih h)
  | case5 => cases h

/-- Writing that fails stops somewhere in what was to be written. -/
theorem writeAll_error {bs : Bytes} {e : Error} (h : writeAll bs link = .error e link') :
    e.desynchronizes ∧ ∃ sent, sent <+: bs ∧ Moved sent [] link link' := by
  fun_induction writeAll bs link with
  | case1 => cases h
  | case2 bs link hbs link₁ hw =>
    cases h
    exact ⟨rfl, [], List.nil_prefix, moved_write_of_ok hw⟩
  | case3 bs link hbs n link₁ hw _ ih =>
    obtain ⟨he, sent, ⟨rest, hrest⟩, hm⟩ := ih h
    -- what this write accepted stands in front of what the later ones did
    refine ⟨he, bs.take (n + 1) ++ sent, ⟨rest, ?_⟩, (moved_write_of_ok hw).trans hm⟩
    rw [List.append_assoc, hrest, List.take_append_drop]
  | case4 bs link hbs failure link₁ hw hk _ ih =>
    obtain ⟨he, sent, hsent, hm⟩ := ih h
    exact ⟨he, sent, hsent, (moved_write_of_error hw).unmoved_trans hm⟩
  | case5 bs link hbs failure link₁ hw hk =>
    cases h
    exact ⟨rfl, [], List.nil_prefix, moved_write_of_error hw⟩

/-- Handing over moves nothing of what was sent or read. -/
theorem flush_ok (h : flush link = .ok () link') : Moved [] [] link link' := by
  unfold flush at h
  split at h
  · rename_i link₁ hf
    cases h
    exact moved_flush hf
  · cases h

/-- A flush that fails says that the link is out of step. -/
theorem flush_error {e : Error} (h : flush link = .error e link') :
    e.desynchronizes ∧ Moved [] [] link link' := by
  unfold flush at h
  split at h
  · cases h
  · rename_i failure link₁ hf
    cases h
    exact ⟨rfl, moved_flush hf⟩

section Request

variable {id : UInt8} {request : RequestCode} {payload : Bytes}

/-- A request that was written moved the link by its frame. -/
theorem sendRequest_ok (h : sendRequest id request payload link = .ok () link') :
    ∃ frame, requestFrame id request payload = .ok frame ∧ Moved frame [] link link' := by
  simp only [sendRequest, bind_eq_ok_iff, ofExcept_eq_ok_iff, note_eq_ok_iff] at h
  obtain ⟨frame, _, ⟨hf, rfl⟩, _, _, rfl, _, _, rfl, _, link₁, hw, hflush⟩ := h
  exact ⟨frame, hf, (writeAll_ok hw).of_note.of_note.trans_unmoved (flush_ok hflush)⟩

/-- Writing a request fails on a payload that has no frame, before anything is written, or
somewhere in its frame. -/
theorem sendRequest_error {e : Error} (h : sendRequest id request payload link = .error e link') :
    (requestFrame id request payload = .error e ∧ link' = link) ∨
      ∃ frame sent, requestFrame id request payload = .ok frame ∧ e.desynchronizes ∧
        sent <+: frame ∧ Moved sent [] link link' := by
  simp only [sendRequest, bind_eq_error_iff, ofExcept_eq_ok_iff, ofExcept_eq_error_iff,
    note_eq_ok_iff, note_ne_error, false_or] at h
  rcases h with hf | ⟨frame, _, ⟨hf, rfl⟩, _, _, rfl, _, _, rfl, h⟩
  · exact .inl hf
  rcases h with hw | ⟨_, link₁, hw, hflush⟩
  · obtain ⟨he, sent, hsent, hm⟩ := writeAll_error hw
    exact .inr ⟨frame, sent, hf, he, hsent, hm.of_note.of_note⟩
  · obtain ⟨he, hm⟩ := flush_error hflush
    exact .inr ⟨frame, frame, hf, he, List.prefix_rfl,
      (writeAll_ok hw).of_note.of_note.trans_unmoved hm⟩

end Request

/-! ### Reading -/

/-- The first byte of a frame comes after reads that failed. -/
theorem awaitByte_ok {start timeout : Duration} {b : UInt8}
    (h : awaitByte start timeout link = .ok b link') :
    ∃ waits : List Arrival, (∀ a ∈ waits, a.isFailure) ∧
      Moved [] (waits ++ [.byte b]) link link' := by
  fun_induction awaitByte start timeout link with
  | case1 link b' tail link₁ hr =>
    cases h
    obtain ⟨hm, hlen⟩ := moved_read_of_ok hr
    -- the buffer has room for one byte
    have htail : tail = [] := List.length_eq_zero_iff.1 (by omega)
    rw [htail] at hm
    exact ⟨[], List.forall_mem_nil _, hm⟩
  | case2 => cases h
  | case3 link failure link₁ hr elapsed hwait _ ih =>
    obtain ⟨waits, hwaits, hm⟩ := ih h
    obtain ⟨taken, htaken, hm₁⟩ := moved_read_of_error hr
    refine ⟨taken ++ waits, ?_, ?_⟩
    · intro a ha
      rcases List.mem_append.1 ha with ha | ha
      · exact htaken a ha
      · exact hwaits a ha
    · rw [List.append_assoc]
      exact (hm₁.note _).trans hm
  | case4 => cases h
  | case5 => cases h

/-- Waiting for the first byte of a frame that fails leaves the link out of step. -/
theorem awaitByte_error {start timeout : Duration} {e : Error}
    (h : awaitByte start timeout link = .error e link') :
    e.desynchronizes ∧ ∃ taken, Moved [] taken link link' := by
  fun_induction awaitByte start timeout link with
  | case1 => cases h
  | case2 link link₁ hr =>
    cases h
    exact ⟨rfl, exists_moved_read hr⟩
  | case3 link failure link₁ hr elapsed hwait _ ih =>
    obtain ⟨he, taken, hm⟩ := ih h
    obtain ⟨taken₁, hm₁⟩ := exists_moved_read hr
    exact ⟨he, _, (hm₁.note _).trans hm⟩
  | case4 link failure link₁ hr elapsed hwait hi =>
    cases h
    obtain ⟨taken, hm⟩ := exists_moved_read hr
    exact ⟨rfl, taken, hm.note _⟩
  | case5 link failure link₁ hr elapsed hwait hi =>
    cases h
    exact ⟨rfl, exists_moved_read hr⟩

/-- A part of a frame that was read in full took just its bytes, however they were served. -/
theorem readRest_ok {total remaining : Nat} {bs : Bytes}
    (h : readRest total remaining link = .ok bs link') :
    bs.length = remaining ∧ Moved [] (bs.map .byte) link link' := by
  fun_induction readRest total remaining link generalizing bs link' with
  | case1 link =>
    cases h
    exact ⟨rfl, .refl link⟩
  | case2 => cases h
  | case3 remaining link hr b bs₁ link₁ hread rest link₂ hrest ih =>
    cases h
    obtain ⟨hlen, hm⟩ := ih hrest
    obtain ⟨hm₁, hle⟩ := moved_read_of_ok hread
    refine ⟨?_, ?_⟩
    · rw [List.length_append, List.length_cons, hlen]
      omega
    · rw [List.map_append]
      exact hm₁.trans hm
  | case4 => cases h
  | case5 => cases h
  | case6 => cases h

/-- A part of a frame that was not read in full leaves the link out of step. -/
theorem readRest_error {total remaining : Nat} {e : Error}
    (h : readRest total remaining link = .error e link') :
    e.desynchronizes ∧ ∃ taken, Moved [] taken link link' := by
  fun_induction readRest total remaining link generalizing e link' with
  | case1 => cases h
  | case2 remaining link hr link₁ hread =>
    cases h
    exact ⟨rfl, exists_moved_read hread⟩
  | case3 => cases h
  | case4 remaining link hr b bs₁ link₁ hread e₁ link₂ hrest ih =>
    cases h
    obtain ⟨he, taken, hm⟩ := ih hrest
    exact ⟨he, _, (moved_read_of_ok hread).1.trans hm⟩
  | case5 remaining link hr failure link₁ hread hi =>
    cases h
    obtain ⟨taken, hm⟩ := exists_moved_read hread
    exact ⟨rfl, taken, hm.note _⟩
  | case6 remaining link hr failure link₁ hread hi =>
    cases h
    exact ⟨rfl, exists_moved_read hread⟩

/-- Reads a frame after its first byte. -/
def receiveAfter (capacity : Nat) (first : UInt8) : LinkM Bytes := do
  let head ← readExactly (Header.byteCount - 1)
  let header := Header.ofBytes first (head.getD 0 0) (head.getD 1 0) (head.getD 2 0)
  if header.frameLength > capacity then
    note (.replyTooLarge header.frameLength capacity)
    throw (.replyTooLarge header.frameLength capacity)
  let payload ← readExactly header.size.toNat
  let frame := first :: head ++ payload
  note (.bytesIn frame)
  return frame

/-- A frame is waited for and then read. -/
theorem receiveFrame_eq_bind {capacity : Nat} (h : Header.byteCount ≤ capacity) (timeout : Duration)
    (link : Link) :
    receiveFrame capacity timeout link =
      (awaitByte link.clock timeout >>= receiveAfter capacity) link := by
  unfold receiveFrame
  dsimp only
  rw [if_neg (Nat.not_lt_of_le h)]
  rfl

/-- Nothing is read into a buffer that has no room for a header. -/
theorem receiveFrame_of_lt {capacity : Nat} (h : capacity < Header.byteCount) (timeout : Duration)
    (link : Link) :
    receiveFrame capacity timeout link =
      .error (.replyTooLarge Header.byteCount capacity) link := by
  unfold receiveFrame
  dsimp only
  rw [if_pos h]
  rfl

/-- A frame that was read is one frame, within the buffer, and was taken after the reads that failed
before its first byte. -/
theorem receiveFrame_ok {capacity : Nat} {timeout : Duration} {bs : Bytes}
    (h : receiveFrame capacity timeout link = .ok bs link') :
    IsFrame bs ∧ bs.length ≤ capacity ∧ ∃ waits : List Arrival, (∀ a ∈ waits, a.isFailure) ∧
      Moved [] (waits ++ bs.map .byte) link link' := by
  unfold receiveFrame at h
  dsimp only at h
  split at h
  · simp only [bind_eq_ok_iff, throw_ne_ok, false_and, exists_false] at h
  simp only [bind_eq_ok_iff, get_eq_ok_iff] at h
  obtain ⟨_, _, ⟨rfl, rfl⟩, first, link₁, hfirst, head, link₂, hhead, h⟩ := h
  split at h
  · simp only [bind_eq_ok_iff, throw_ne_ok, false_and, exists_false, and_false] at h
  rename_i hfits
  simp only [bind_eq_ok_iff, note_eq_ok_iff, pure_eq_ok_iff] at h
  obtain ⟨payload, link₃, hpayload, _, _, rfl, rfl, rfl⟩ := h
  -- the three parts that the frame was read in
  obtain ⟨waits, hwaits, hm₁⟩ := awaitByte_ok hfirst
  obtain ⟨hlen, hm₂⟩ := readRest_ok hhead
  obtain ⟨hlen', hm₃⟩ := readRest_ok hpayload
  obtain ⟨high, low, tag, rfl⟩ := List.length_eq_three.1 hlen
  have hframe : first :: [high, low, tag] ++ payload =
      (Header.ofBytes first high low tag).bytes ++ payload := by
    rw [Header.bytes_ofBytes]
  refine ⟨⟨_, payload, hlen', hframe⟩, ?_, waits, hwaits, ?_⟩
  · have hle : Header.byteCount + payload.length ≤ capacity := by
      rw [hlen']
      exact Nat.le_of_not_lt hfits
    rwa [hframe, List.length_append, Header.length_bytes]
  · have hm := (hm₁.trans (hm₂.trans hm₃)).note (.bytesIn (first :: [high, low, tag] ++ payload))
    simpa only [List.nil_append, List.append_assoc, List.singleton_append, List.cons_append,
      List.map_cons, List.map_append, List.map_nil] using hm

/-- Reading a frame that fails leaves the link out of step and writes nothing. -/
theorem receiveFrame_error {capacity : Nat} {timeout : Duration} {e : Error}
    (h : receiveFrame capacity timeout link = .error e link') :
    e.desynchronizes ∧ ∃ taken, Moved [] taken link link' := by
  unfold receiveFrame at h
  dsimp only at h
  split at h
  · simp only [bind_eq_error_iff, throw_eq_error_iff, throw_ne_ok, false_and, exists_false,
      or_false] at h
    obtain ⟨rfl, rfl⟩ := h
    exact ⟨rfl, [], .refl _⟩
  simp only [bind_eq_error_iff, get_eq_ok_iff, get_ne_error, false_or] at h
  obtain ⟨_, _, ⟨rfl, rfl⟩, hfirst | ⟨first, link₁, hfirst, h⟩⟩ := h
  · exact awaitByte_error hfirst
  obtain ⟨waits, -, hm₁⟩ := awaitByte_ok hfirst
  obtain hhead | ⟨head, link₂, hhead, h⟩ := h
  · obtain ⟨he, taken, hm₂⟩ := readRest_error hhead
    exact ⟨he, _, hm₁.trans hm₂⟩
  have hm₂ := hm₁.trans (readRest_ok hhead).2
  split at h
  · simp only [bind_eq_error_iff, note_eq_ok_iff, note_ne_error, throw_eq_error_iff, throw_ne_ok,
      false_and, exists_false, or_false, false_or] at h
    obtain ⟨_, _, rfl, rfl, rfl⟩ := h
    exact ⟨rfl, _, hm₂.note _⟩
  simp only [bind_eq_error_iff, note_eq_ok_iff, note_ne_error, pure_ne_error, and_false,
    exists_false, or_false] at h
  obtain ⟨he, taken, hm₃⟩ := readRest_error h
  exact ⟨he, _, hm₂.trans hm₃⟩

/-! ### Reading what has arrived -/

section Arrived

variable {bs : Bytes} {rest : List Arrival}

/-- The first byte that has arrived is not waited for. -/
theorem awaitByte_of_incoming (start timeout : Duration) {b : UInt8}
    (h : link.incoming = .byte b :: rest) :
    awaitByte start timeout link =
      .ok b { link with reads := link.reads + 1, incoming := rest } := by
  have hone : 1 ≤ [b].length := Nat.le_refl 1
  obtain ⟨n, hn, hle, hread⟩ := read_of_incoming h Nat.one_pos hone
  obtain rfl : n = 1 := by omega
  rw [awaitByte_of_read hread]
  rfl

/-- A part of a frame that has arrived is read in full, whatever the reads serve at a time. -/
theorem readRest_of_incoming (total : Nat) (h : link.incoming = bs.map .byte ++ rest) :
    ∃ link', readRest total bs.length link = .ok bs link' ∧ link'.incoming = rest := by
  induction hlen : bs.length using Nat.strongRecOn generalizing bs link with
  | ind remaining ih =>
    rcases Nat.eq_zero_or_pos remaining with hzero | hpos
    · obtain rfl : bs = [] := List.length_eq_zero_iff.1 (hlen.trans hzero)
      subst hzero
      refine ⟨link, ?_, h⟩
      unfold readRest
      rfl
    · obtain ⟨n, hn, hle, hread⟩ := read_of_incoming h hpos (Nat.le_of_eq hlen.symm)
      have hdrop : (bs.drop n).length = remaining - n := by rw [List.length_drop, hlen]
      have hleft : ({ link with
          reads := link.reads + 1, incoming := (bs.drop n).map .byte ++ rest } : Link).incoming =
            (bs.drop n).map .byte ++ rest := rfl
      obtain ⟨link', hrest, hin⟩ := ih (remaining - n) (by omega) hleft hdrop
      have hserved : (bs.take n).length = n := by
        rw [List.length_take]
        omega
      refine ⟨link', ?_, hin⟩
      rcases hbs : bs.take n with - | ⟨b, served⟩
      · rw [hbs] at hserved
        exact absurd hserved (Nat.ne_of_lt hn)
      · rw [hbs, List.length_cons] at hserved
        unfold readRest
        rw [dif_neg (Nat.ne_of_gt hpos), hread, hbs]
        dsimp only
        rw [hserved, hrest]
        dsimp only
        rw [← hbs, List.take_append_drop]

variable {capacity : Nat} {first high low tag : UInt8} {payload : Bytes}

/-- What has arrived of a frame after its first byte is read, if the frame fits the buffer. -/
theorem receiveAfter_of_incoming (hlen : payload.length = (BigEndian.decode16 high low).toNat)
    (hfits : Header.byteCount + payload.length ≤ capacity)
    (h : link.incoming = (high :: low :: tag :: payload).map .byte ++ rest) :
    ∃ link', receiveAfter capacity first link = .ok (first :: high :: low :: tag :: payload) link' ∧
      link'.incoming = rest := by
  have hin : link.incoming = [high, low, tag].map .byte ++ (payload.map .byte ++ rest) := h
  obtain ⟨link₁, hhead, h₁⟩ := readRest_of_incoming (Header.byteCount - 1) hin
  obtain ⟨link₂, hpayload, h₂⟩ := readRest_of_incoming payload.length h₁
  have hlength : ¬ (Header.ofBytes first high low tag).frameLength > capacity := by
    rw [Header.frameLength, Header.ofBytes, ← hlen]
    exact Nat.not_lt_of_le hfits
  have hsize : (Header.ofBytes first high low tag).size.toNat = payload.length := hlen.symm
  refine ⟨link₂.note (.bytesIn (first :: high :: low :: tag :: payload)), ?_, h₂⟩
  simp only [receiveAfter]
  refine bind_eq_ok_iff.2 ⟨_, _, hhead, ?_⟩
  simp only [List.getD_cons_zero, List.getD_cons_succ, if_neg hlength, hsize]
  exact bind_eq_ok_iff.2 ⟨payload, link₂, hpayload, rfl⟩

/-- The payload of a frame that does not fit the buffer stays where it is. -/
theorem receiveAfter_of_too_large
    (hfits : capacity < (Header.ofBytes first high low tag).frameLength)
    (h : link.incoming = [high, low, tag].map .byte ++ rest) :
    ∃ link', receiveAfter capacity first link =
      .error (.replyTooLarge (Header.ofBytes first high low tag).frameLength capacity) link' ∧
        link'.incoming = rest := by
  obtain ⟨link₁, hhead, h₁⟩ := readRest_of_incoming (Header.byteCount - 1) h
  refine ⟨link₁.note (.replyTooLarge (Header.ofBytes first high low tag).frameLength capacity),
    ?_, h₁⟩
  simp only [receiveAfter]
  refine bind_eq_error_iff.2 (.inr ⟨_, _, hhead, ?_⟩)
  simp only [List.getD_cons_zero, List.getD_cons_succ]
  rw [if_pos hfits]
  rfl

/-- A frame that has arrived and fits the buffer is read, and nothing after it is touched. -/
theorem receiveFrame_of_incoming (timeout : Duration) (hframe : IsFrame bs)
    (hfits : bs.length ≤ capacity) (h : link.incoming = bs.map .byte ++ rest) :
    ∃ link', receiveFrame capacity timeout link = .ok bs link' ∧ link'.incoming = rest := by
  obtain ⟨header, payload, hlen, rfl⟩ := hframe
  rw [List.length_append, Header.length_bytes] at hfits
  rw [receiveFrame_eq_bind (Nat.le_trans (Nat.le_add_right _ _) hfits),
    bind_of_ok (awaitByte_of_incoming link.clock timeout h)]
  have hsize : payload.length = (BigEndian.decode16 (UInt8.ofNat (header.size.toNat / 256))
      (UInt8.ofNat header.size.toNat)).toNat := by rw [BigEndian.decode16_encode16, hlen]
  exact receiveAfter_of_incoming hsize hfits rfl

end Arrived

end LoraConcentrator.LinkM
