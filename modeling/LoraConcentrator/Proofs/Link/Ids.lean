import LoraConcentrator.Proofs.Link.Feed

/-!
# Links that differ in ids

Two links may be the same but for what they remember and for the ids of the frames to come
(`Link.SameButIds`). A reader of frames keeps in step on such links: it finds the same frame but for
its id, or fails in the same way, and what is left differs in ids alone again
(`LinkM.receiveFrame_sameButIds`). The reason is that a frame is read as it would be with anything
else behind it. Writing and handing over do not look at what has arrived, but for whether there is
anything.
-/

namespace LoraConcentrator

open Program

namespace Link

/-! ### Reading does not look ahead -/

/-- The link with other things to meet and to remember. -/
def refill (link : Link) (incoming : List Arrival) (answers : List Bytes) (noticed : List Notice) :
    Link :=
  { link with incoming := incoming, answers := answers, noticed := noticed }

variable (link : Link)

/-- The link after one more read. -/
def counted (link : Link) : Link := { link with reads := link.reads + 1 }

/-- A read of bytes that have arrived serves as many as it would with anything else behind them. -/
theorem read_refill {bs : Bytes} {room : Nat} (hpos : 0 < room) (hle : room ≤ bs.length)
    (incoming : List Arrival) (answers : List Bytes) (noticed : List Notice) :
    (link.refill (bs.map .byte ++ incoming) answers noticed).read room =
      (.ok (bs.take (link.serving room)), link.counted.refill
        ((bs.drop (link.serving room)).map .byte ++ incoming) answers noticed) := by
  have htake := takeBytes_map_byte_append (Nat.le_trans (link.serving_le room) hle) incoming
  have hserving : (link.refill (bs.map .byte ++ incoming) answers noticed).serving room =
      link.serving room := rfl
  cases bs with
  | nil => exact absurd hle (Nat.not_le_of_lt hpos)
  | cons b bs =>
    unfold read
    rw [hserving]
    simp only [refill, List.map_cons, List.cons_append] at htake ⊢
    rw [htake]
    rfl

/-- Bytes are taken up to what is no byte. -/
theorem takeBytes_of_stop {stop : Arrival} (hstop : stop.byte? = none) (bs : Bytes) (n : Nat)
    (rest : List Arrival) : takeBytes n (bs.map .byte ++ stop :: rest) =
      (bs.take n, (bs.drop n).map .byte ++ stop :: rest) := by
  induction n generalizing bs with
  | zero =>
    rw [takeBytes]
    · rfl
    · intro n b rest h
      cases h
  | succ n ih =>
    cases bs with
    | nil =>
      rw [takeBytes]
      · rfl
      · intro n b rest' _ h
        cases h
        cases hstop
    | cons b bs =>
      rw [List.map_cons, List.cons_append, takeBytes, ih]
      rfl

/-- A read of bytes before a stop serves as many as it would with anything else behind the stop. -/
theorem read_refill_of_stop (b : UInt8) (bs : Bytes) {stop : Arrival}
    (hstop : stop.byte? = none) (room : Nat) (incoming : List Arrival) (answers : List Bytes)
    (noticed : List Notice) :
    (link.refill ((b :: bs).map .byte ++ stop :: incoming) answers noticed).read room =
      (.ok ((b :: bs).take (link.serving room)), link.counted.refill
        (((b :: bs).drop (link.serving room)).map .byte ++ stop :: incoming) answers noticed) := by
  have htake := takeBytes_of_stop hstop (b :: bs) (link.serving room) incoming
  have hserving : (link.refill ((b :: bs).map .byte ++ stop :: incoming) answers noticed).serving
      room = link.serving room := rfl
  unfold read
  rw [hserving]
  simp only [refill, List.map_cons, List.cons_append] at htake ⊢
  rw [htake]
  rfl

/-- A stop is met as it would be with anything else behind it. -/
theorem read_refill_stop {stop : Arrival} (hstop : stop.byte? = none) (room : Nat) :
    ∃ (outcome : Except IoFailure Bytes) (next : Link), (∀ b bs, outcome ≠ .ok (b :: bs)) ∧
      ∀ incoming answers noticed, (link.refill (stop :: incoming) answers noticed).read room =
        (outcome, next.refill incoming answers noticed) := by
  cases stop with
  | byte b => cases hstop
  | endOfFile => exact ⟨.ok [], link.counted, by simp, fun _ _ _ ↦ rfl⟩
  | failure failure after =>
    exact ⟨.error failure, link.counted.pass after, by simp, fun _ _ _ ↦ rfl⟩

/-- A read finds the same when nothing has arrived, whatever will be answered. -/
theorem read_refill_nil (room : Nat) :
    ∃ (outcome : Except IoFailure Bytes) (next : Link), (∀ b bs, outcome ≠ .ok (b :: bs)) ∧
      ∀ answers noticed, (link.refill [] answers noticed).read room =
        (outcome, next.refill [] answers noticed) := by
  cases hidle : link.idle with
  | closed =>
    refine ⟨.ok [], link.counted, by simp, fun answers noticed ↦ ?_⟩
    simp only [read, refill, hidle, counted]
  | silent wait =>
    refine ⟨.error timedOut, link.counted.pass wait.toDuration, by simp, fun answers noticed ↦ ?_⟩
    simp only [read, refill, hidle, counted, pass]
  | hungUp =>
    refine ⟨.error brokenPipe, link.counted, by simp, fun answers noticed ↦ ?_⟩
    simp only [read, refill, hidle, counted]

end Link

namespace LinkM

open Link

/-- A part of a frame that has arrived is read as it would be with anything else behind it. By
induction on the bytes that are missing. -/
theorem readRest_refill (total : Nat) (bs : Bytes) (link : Link) :
    ∃ next : Link, ∀ incoming answers noticed,
      readRest total bs.length (link.refill (bs.map .byte ++ incoming) answers noticed) =
        .ok bs (next.refill incoming answers noticed) := by
  induction hlength : bs.length using Nat.strongRecOn generalizing bs link with
  | ind remaining ih =>
    rcases Nat.eq_zero_or_pos remaining with hzero | hpos
    · obtain rfl : bs = [] := List.length_eq_zero_iff.1 (hlength.trans hzero)
      subst hzero
      refine ⟨link, fun incoming answers noticed ↦ ?_⟩
      unfold readRest
      rfl
    have hserves : 0 < link.serving remaining := link.serving_pos hpos
    have hserving := link.serving_le remaining
    have hdrop : (bs.drop (link.serving remaining)).length =
        remaining - link.serving remaining := by
      rw [List.length_drop, hlength]
    obtain ⟨next, hnext⟩ := ih (remaining - link.serving remaining) (by omega)
      (bs.drop (link.serving remaining)) link.counted hdrop
    refine ⟨next, fun incoming answers noticed ↦ ?_⟩
    have hread := link.read_refill hpos (Nat.le_of_eq hlength.symm) incoming answers noticed
    rw [readRest_of_read (Nat.ne_of_gt hpos) hread]
    rcases htake : bs.take (link.serving remaining) with - | ⟨b, served⟩
    · have hnone := congrArg List.length htake
      rw [List.length_take, List.length_nil] at hnone
      omega
    · have hserved := congrArg List.length htake
      rw [List.length_take, List.length_cons] at hserved
      have hless : remaining - (served.length + 1) = remaining - link.serving remaining := by omega
      dsimp only
      rw [hless, map_of_ok _ (hnext incoming answers noticed), ← htake, List.take_append_drop]

/-- A part of a frame that is cut off fails as it would with anything else behind the cut. -/
theorem readRest_refill_of_stop {stop : Arrival} (hstop : stop.byte? = none) (total : Nat)
    (remaining : Nat) (bs : Bytes) (hless : bs.length < remaining) (link : Link) :
    ∃ (e : Error) (next : Link) (noted : List Notice), ∀ incoming answers noticed,
      readRest total remaining (link.refill (bs.map .byte ++ stop :: incoming) answers noticed) =
        .error e (next.refill incoming answers (noted ++ noticed)) := by
  induction remaining using Nat.strongRecOn generalizing bs link with
  | ind remaining ih =>
    have hpos : 0 < remaining := Nat.zero_lt_of_lt hless
    match bs with
    | [] =>
      obtain ⟨outcome, next, hnone, hread⟩ := link.read_refill_stop hstop remaining
      match outcome with
      | .ok (b :: bs) => exact absurd rfl (hnone b bs)
      | .ok [] =>
        refine ⟨.disconnected, next, [], fun incoming answers noticed ↦ ?_⟩
        exact readRest_of_read (Nat.ne_of_gt hpos) (hread incoming answers noticed)
      | .error failure =>
        by_cases hinterrupted : failure.kind = .interrupted
        · refine ⟨.interrupted, next, [.interruptedReading (total - remaining) total],
            fun incoming answers noticed ↦ ?_⟩
          refine (readRest_of_read (Nat.ne_of_gt hpos) (hread incoming answers noticed)).trans ?_
          exact if_pos hinterrupted
        · refine ⟨.io failure, next, [], fun incoming answers noticed ↦ ?_⟩
          refine (readRest_of_read (Nat.ne_of_gt hpos) (hread incoming answers noticed)).trans ?_
          exact if_neg hinterrupted
    | b :: bs =>
      have hserves : 0 < link.serving remaining := link.serving_pos hpos
      obtain ⟨n, hn⟩ := Nat.exists_eq_succ_of_ne_zero (Nat.ne_of_gt hserves)
      have hserved : (bs.take n).length ≤ bs.length := List.length_take_le' n bs
      rw [List.length_cons] at hless
      have hdrop : (bs.drop n).length < remaining - ((bs.take n).length + 1) := by
        rw [List.length_drop]
        rw [List.length_take] at hserved ⊢
        omega
      obtain ⟨e, next, noted, hnext⟩ :=
        ih (remaining - ((bs.take n).length + 1)) (by omega) (bs.drop n) hdrop link.counted
      refine ⟨e, next, noted, fun incoming answers noticed ↦ ?_⟩
      have hread := link.read_refill_of_stop b bs hstop remaining incoming answers noticed
      rw [hn, List.take_succ_cons, List.drop_succ_cons] at hread
      refine (readRest_of_read (Nat.ne_of_gt hpos) hread).trans ?_
      exact map_of_error _ (hnext incoming answers noticed)

/-! ### Behind the first byte -/

/-- Reads what follows the first byte of a frame. -/
def readTail (capacity : Nat) : LinkM Bytes := do
  let head ← readExactly (Header.byteCount - 1)
  let header := Header.ofBytes 0 (head.getD 0 0) (head.getD 1 0) (head.getD 2 0)
  if header.frameLength > capacity then
    note (.replyTooLarge header.frameLength capacity)
    throw (.replyTooLarge header.frameLength capacity)
  let payload ← readExactly header.size.toNat
  return head ++ payload

/-- Reads a frame whose first byte is read by another program. -/
def readFrameBy (first : LinkM UInt8) : LinkM Bytes := do
  let id ← first
  let bs ← readTail replyCapacity
  note (.bytesIn (id :: bs))
  return id :: bs

/-- The first byte of a frame says nothing about the bytes that follow. -/
theorem receiveFrame_eq (timeout : Duration) :
    receiveFrame replyCapacity timeout =
      get >>= fun link ↦ readFrameBy (awaitByte link.clock timeout) := by
  have hcapacity : ¬ replyCapacity < Header.byteCount := by decide
  unfold receiveFrame readFrameBy readTail
  dsimp only
  rw [if_neg hcapacity]
  simp only [bind_assoc]
  refine congrArg _ (funext fun link ↦ congrArg _ (funext fun id ↦ congrArg _ (funext fun head ↦
    ?_)))
  by_cases hlarge : replyCapacity <
    (Header.ofBytes 0 (head.getD 0 0) (head.getD 1 0) (head.getD 2 0)).frameLength
  · rw [if_pos hlarge]
    exact if_pos hlarge
  · rw [if_neg hlarge, bind_assoc]
    exact if_neg hlarge

section ReadTail

variable {high low tag : UInt8} {link next : Link}

/-- A header that announces too much ends the frame with nothing more read. -/
theorem readTail_of_large (h : readExactly (Header.byteCount - 1) link = .ok [high, low, tag] next)
    (hlarge : replyCapacity < Header.byteCount + (BigEndian.decode16 high low).toNat) :
    readTail replyCapacity link =
      .error (.replyTooLarge (Header.byteCount + (BigEndian.decode16 high low).toNat) replyCapacity)
        (next.note (.replyTooLarge (Header.byteCount + (BigEndian.decode16 high low).toNat)
          replyCapacity)) := by
  have hlength : (Header.ofBytes 0 high low tag).frameLength > replyCapacity := hlarge
  unfold readTail
  rw [bind_of_ok h]
  simp only [List.getD_cons_zero, List.getD_cons_succ]
  rw [if_pos hlength]
  rfl

/-- A header that announces what fits is followed by its payload. -/
theorem readTail_of_fits (h : readExactly (Header.byteCount - 1) link = .ok [high, low, tag] next)
    (hfits : Header.byteCount + (BigEndian.decode16 high low).toNat ≤ replyCapacity) :
    readTail replyCapacity link =
      (([high, low, tag] ++ ·) <$> readExactly (BigEndian.decode16 high low).toNat) next := by
  have hlength : ¬ (Header.ofBytes 0 high low tag).frameLength > replyCapacity :=
    Nat.not_lt_of_le hfits
  unfold readTail
  rw [bind_of_ok h, map_eq_bind]
  simp only [List.getD_cons_zero, List.getD_cons_succ]
  rw [if_neg hlength]
  rfl

end ReadTail

/-- What follows the first byte of a frame is read as it would be with anything else behind the
frame. -/
theorem readTail_refill {tail : List Arrival} (h : FrameTail tail) (link : Link) :
    ∃ (outcome : Except Error Bytes) (next : Link) (noted : List Notice),
      ∀ incoming answers noticed,
        readTail replyCapacity (link.refill (tail ++ incoming) answers noticed) =
          ofExcept outcome (next.refill incoming answers (noted ++ noticed)) := by
  cases h with
  | @whole high low tag payload hlength hfits =>
    obtain ⟨link₁, hhead⟩ := readRest_refill 3 [high, low, tag] link
    obtain ⟨link₂, hpayload⟩ := readRest_refill payload.length payload link₁
    refine ⟨.ok ([high, low, tag] ++ payload), link₂, [], fun incoming answers noticed ↦ ?_⟩
    rw [hlength] at hfits
    refine (readTail_of_fits (hhead (payload.map .byte ++ incoming) answers noticed) hfits).trans ?_
    rw [← hlength]
    exact map_of_ok _ (hpayload incoming answers noticed)
  | @tooLarge high low tag hlarge =>
    obtain ⟨link₁, hhead⟩ := readRest_refill 3 [high, low, tag] link
    let length := Header.byteCount + (BigEndian.decode16 high low).toNat
    refine ⟨.error (.replyTooLarge length replyCapacity), link₁,
      [.replyTooLarge length replyCapacity], fun incoming answers noticed ↦ ?_⟩
    exact readTail_of_large (hhead incoming answers noticed) hlarge
  | @cutHeader bs stop hless hstop =>
    obtain ⟨e, next, noted, hhead⟩ := readRest_refill_of_stop hstop 3 3 bs hless link
    refine ⟨.error e, next, noted, fun incoming answers noticed ↦ ?_⟩
    rw [List.append_assoc]
    exact bind_of_error (hhead incoming answers noticed)
  | @cutPayload high low tag bs stop hless hfits hstop =>
    obtain ⟨link₁, hhead⟩ := readRest_refill 3 [high, low, tag] link
    obtain ⟨e, next, noted, hpayload⟩ := readRest_refill_of_stop hstop
      (BigEndian.decode16 high low).toNat (BigEndian.decode16 high low).toNat bs hless link₁
    refine ⟨.error e, next, noted, fun incoming answers noticed ↦ ?_⟩
    rw [List.append_assoc]
    refine (readTail_of_fits (hhead (bs.map .byte ++ stop :: incoming) answers noticed) hfits).trans
      ?_
    exact map_of_error _ (hpayload incoming answers noticed)

end LinkM

namespace Link

/-! ### Links but for ids -/

/-- The links are the same but for what they remember and for the ids of frames to come, by their
position, that are free. -/
def SameButIds (free : Nat → Prop) (link link' : Link) : Prop :=
  ∃ incoming answers noticed, link' = link.refill incoming answers noticed ∧
    ButIds free (feed link.incoming link.answers) (feed incoming answers)

/-- Links that agree but for notices agree but for any ids. -/
theorem sameButIds_of_sameButNotices {link link' : Link} (h : SameButNotices link link')
    (free : Nat → Prop) : SameButIds free link link' := by
  obtain ⟨noticed, rfl⟩ := h
  exact ⟨link.incoming, link.answers, noticed, rfl, .same free _⟩

namespace SameButIds

variable {free : Nat → Prop} {link link' : Link} (h : SameButIds free link link')

include h

/-- With more ids free there is more agreement. -/
theorem mono {free' : Nat → Prop} (hfree : ∀ i, free i → free' i) :
    SameButIds free' link link' := by
  obtain ⟨incoming, answers, noticed, rfl, hfeed⟩ := h
  exact ⟨incoming, answers, noticed, rfl, hfeed.mono hfree⟩

/-- With no id free, nothing but notices differs. -/
theorem sameButNotices (hfree : ∀ i, ¬ free i) : SameButNotices link link' := by
  obtain ⟨incoming, answers, noticed, rfl, hfeed⟩ := h
  obtain ⟨rfl, rfl⟩ := feed_injective (hfeed.eq_of_not_free hfree)
  exact ⟨noticed, rfl⟩

theorem clock_eq : link'.clock = link.clock := by
  obtain ⟨incoming, answers, noticed, rfl, -⟩ := h
  rfl

/-- The notices need not be the same. -/
theorem note (notice notice' : Notice) :
    SameButIds free (link.note notice) (link'.note notice') := by
  obtain ⟨incoming, answers, noticed, rfl, hfeed⟩ := h
  exact ⟨incoming, answers, notice' :: noticed, rfl, hfeed⟩

theorem pass (time : Duration) : SameButIds free (link.pass time) (link'.pass time) := by
  obtain ⟨incoming, answers, noticed, rfl, hfeed⟩ := h
  exact ⟨incoming, answers, noticed, rfl, hfeed⟩

/-- As much has arrived on both sides. -/
theorem length_incoming_eq : link'.incoming.length = link.incoming.length := by
  obtain ⟨incoming, answers, noticed, rfl, hfeed⟩ := h
  show incoming.length = _
  rw [← length_takeWhile_isSome incoming answers, hfeed.map_isSome_eq, length_takeWhile_isSome]

theorem pending_eq : link'.pending = link.pending := by
  obtain ⟨incoming, answers, noticed, rfl, hfeed⟩ := h
  show incoming.length + answers.flatten.length = _
  rw [← count_isSome incoming answers, hfeed.map_isSome_eq, count_isSome, pending]

end SameButIds

/-- The links are the same but for the ids of frames to come, some frames after those that the
positions are counted from. -/
def SameButLaterIds (free : Nat → Prop) (link link' : Link) : Prop :=
  ∃ read, SameButIds (fun i ↦ free (i + read)) link link'

/-- But for what they remember, the links are the same up to the end of the frame that was begun,
and behind it they are the same but for ids that are free. -/
inductive Started (free : Nat → Prop) : Link → Link → Prop
  | alike {link link' : Link} : SameButNotices link link' → Started free link link'
  | apart (link : Link) {tail incoming incoming' : List Arrival} {answers answers' : List Bytes}
    (noticed noticed' : List Notice) :
    FrameTail tail → ButIds free (feed incoming answers) (feed incoming' answers') →
      Started free (link.refill (tail ++ incoming) answers noticed)
        (link.refill (tail ++ incoming') answers' noticed')

theorem read_of_byte (link : Link) (b : UInt8) (incoming : List Arrival) (answers : List Bytes)
    (noticed : List Notice) : (link.refill (.byte b :: incoming) answers noticed).read 1 =
      (.ok [b], link.counted.refill incoming answers noticed) := by
  have hread := link.read_refill Nat.one_pos (Nat.le_refl [b].length) incoming answers noticed
  rw [serving_one] at hread
  exact hread

/-- A read of one byte finds the same, but for an id. -/
theorem read_butIds {free : Nat → Prop} (link : Link) {incoming incoming' : List Arrival}
    {answers answers' : List Bytes} (noticed noticed' : List Notice)
    (h : ButIds free (feed incoming answers) (feed incoming' answers')) :
    (∃ id id' next next', (link.refill incoming answers noticed).read 1 = (.ok [id], next) ∧
      (link.refill incoming' answers' noticed').read 1 = (.ok [id'], next') ∧
        (¬ free 0 → id' = id) ∧ Started (fun i ↦ free (i + 1)) next next') ∨
    ∃ outcome next next', (link.refill incoming answers noticed).read 1 = (outcome, next) ∧
      (link.refill incoming' answers' noticed').read 1 = (outcome, next') ∧
        (∀ b bs, outcome ≠ .ok (b :: bs)) ∧ SameButIds free next next' := by
  generalize hf : feed incoming answers = f at h
  generalize hf' : feed incoming' answers' = f' at h
  cases h with
  | same =>
    obtain ⟨rfl, rfl⟩ := feed_injective (hf'.trans hf.symm)
    have hsame : SameButNotices (link.refill incoming' answers' noticed)
      (link.refill incoming' answers' noticed') := ⟨noticed', rfl⟩
    rcases hread : (link.refill incoming' answers' noticed).read 1 with ⟨outcome, next⟩
    obtain ⟨next', hread', hnext⟩ := readsAlike_sameButNotices 1 hsame hread
    match outcome with
    | .ok (b :: bs) =>
      have hlength := (moved_read_of_ok hread).2
      obtain rfl : bs = [] := List.length_eq_zero_iff.1 (by omega)
      exact .inl ⟨b, b, next, next', rfl, hread', fun _ ↦ rfl, .alike hnext⟩
    | .ok [] =>
      exact .inr ⟨_, next, next', rfl, hread', nofun, sameButIds_of_sameButNotices hnext free⟩
    | .error failure =>
      exact .inr ⟨_, next, next', rfl, hread', nofun, sameButIds_of_sameButNotices hnext free⟩
  | begun id id' rest hbegun =>
    obtain ⟨left, rfl, rfl⟩ := exists_of_feed_eq_cons hf
    obtain ⟨left', rfl, hrest⟩ := exists_of_feed_eq_cons hf'
    obtain ⟨rfl, rfl⟩ := feed_injective hrest
    exact .inl ⟨id, id', _, _, link.read_of_byte id left answers noticed,
      link.read_of_byte id' left answers noticed', fun hkept ↦ absurd hbegun hkept,
      .alike ⟨noticed', rfl⟩⟩
  | @pause _ a rest rest' hpause hrest =>
    match a with
    | none =>
      obtain rfl := eq_nil_of_feed_eq_none hf
      obtain rfl := eq_nil_of_feed_eq_none hf'
      obtain ⟨outcome, next, hnone, hread⟩ := link.read_refill_nil 1
      refine .inr ⟨outcome, _, _, hread answers noticed, hread answers' noticed', hnone, ?_⟩
      refine ⟨[], answers', noticed', rfl, ?_⟩
      show ButIds free (feed [] answers) (feed [] answers')
      rw [hf, hf']
      exact .pause rfl hrest
    | some stop =>
      obtain ⟨left, rfl, rfl⟩ := exists_of_feed_eq_cons hf
      obtain ⟨left', rfl, rfl⟩ := exists_of_feed_eq_cons hf'
      obtain ⟨outcome, next, hnone, hread⟩ := link.read_refill_stop hpause 1
      exact .inr ⟨outcome, _, _, hread left answers noticed, hread left' answers' noticed', hnone,
        left', answers', noticed', rfl, hrest⟩
  | @frame _ id id' tail rest rest' hid htail hrest =>
    obtain ⟨behind, rfl, hbehind⟩ := exists_of_feed_eq_cons hf
    obtain ⟨behind', rfl, hbehind'⟩ := exists_of_feed_eq_cons hf'
    obtain ⟨left, rfl, rfl⟩ := exists_of_feed_eq_append hbehind.symm
    obtain ⟨left', rfl, rfl⟩ := exists_of_feed_eq_append hbehind'.symm
    exact .inl ⟨id, id', _, _, link.read_of_byte id _ answers noticed,
      link.read_of_byte id' _ answers' noticed', hid, .apart _ noticed noticed' htail hrest⟩

/-- A read finds the same, or a first byte each, which may differ if its id is free. -/
theorem SameButIds.read {free : Nat → Prop} {link link' : Link} (h : SameButIds free link link') :
    (∃ id id' next next', link.read 1 = (.ok [id], next) ∧ link'.read 1 = (.ok [id'], next') ∧
      (¬ free 0 → id' = id) ∧ Started (fun i ↦ free (i + 1)) next next') ∨
    ∃ outcome next next', link.read 1 = (outcome, next) ∧ link'.read 1 = (outcome, next') ∧
      (∀ b bs, outcome ≠ .ok (b :: bs)) ∧ SameButIds free next next' := by
  obtain ⟨incoming, answers, noticed, rfl, hfeed⟩ := h
  exact read_butIds link link.noticed noticed hfeed

end Link

namespace LinkM

open Link

variable {free : Nat → Prop} {link link' : Link}

/-! ### Frames but for ids -/

/-- By induction on what bounds the wait. -/
theorem awaitByte_sameButIds (h : SameButIds free link link') (start timeout : Duration) :
    (∃ id id' next next', awaitByte start timeout link = .ok id next ∧
      awaitByte start timeout link' = .ok id' next' ∧
        (¬ free 0 → id' = id) ∧ Started (fun i ↦ free (i + 1)) next next') ∨
    ∃ e next next', awaitByte start timeout link = .error e next ∧
      awaitByte start timeout link' = .error e next' ∧ SameButIds free next next' := by
  induction hbound : patience start timeout link using Nat.strongRecOn generalizing link link' with
  | ind bound ih =>
    rcases h.read with ⟨id, id', next, next', hread, hread', hid, hnext⟩ |
      ⟨outcome, next, next', hread, hread', hnone, hnext⟩
    · exact .inl ⟨id, id', next, next', awaitByte_of_read hread, awaitByte_of_read hread', hid,
        hnext⟩
    rw [awaitByte_of_read hread, awaitByte_of_read hread']
    match outcome with
    | .ok (b :: bs) => exact absurd rfl (hnone b bs)
    | .ok [] => exact .inr ⟨_, next, next', rfl, rfl, hnext⟩
    | .error failure =>
      dsimp only
      rw [hnext.clock_eq]
      split
      · rename_i hwaits
        have hless := patience_lt (.stillWaiting (next.clock - start)) hread hwaits.1 hwaits.2
        exact ih _ (hbound ▸ hless) (hnext.note _ _) rfl
      · split
        · exact .inr ⟨_, _, _, rfl, rfl, hnext.note _ .interruptedWaiting⟩
        · exact .inr ⟨_, _, _, rfl, rfl, hnext⟩

/-- What follows an id is read in lockstep. -/
theorem readTail_started (h : Started free link link') :
    Agree (SameButIds free) (readTail replyCapacity link) (readTail replyCapacity link') := by
  cases h with
  | alike h =>
    have hreader := hiddenFromReading_sameButNotices
    refine Agree.mono ?_ fun _ _ hl ↦ sameButIds_of_sameButNotices hl free
    refine Lockstep.bind (hreader.readRest _ _) (fun head ↦ ?_) h
    refine .ite ?_ ((hreader.readRest _ _).bind fun _ ↦ .pure _)
    exact (hreader.lockstep_note _).bind fun _ ↦ .throw_bind _ _ _
  | apart link noticed noticed' htail hfeed =>
    obtain ⟨outcome, next, noted, hread⟩ := readTail_refill htail link
    rw [hread, hread]
    match outcome with
    | .ok bs => exact .ok ⟨_, _, _, rfl, hfeed⟩
    | .error e => exact .error ⟨_, _, _, rfl, hfeed⟩

/-- A reader of frames finds the same frame but for its id, or fails in the same way, and what is
left differs in ids alone again. -/
theorem receiveFrame_sameButIds (h : SameButIds free link link') (timeout : Duration) :
    (∃ id id' bs next next', receiveFrame replyCapacity timeout link = .ok (id :: bs) next ∧
      receiveFrame replyCapacity timeout link' = .ok (id' :: bs) next' ∧
        (¬ free 0 → id' = id) ∧ SameButIds (fun i ↦ free (i + 1)) next next') ∨
    ∃ e next next', receiveFrame replyCapacity timeout link = .error e next ∧
      receiveFrame replyCapacity timeout link' = .error e next' ∧
        SameButLaterIds free next next' := by
  rw [receiveFrame_eq, get_bind, get_bind, h.clock_eq]
  rcases awaitByte_sameButIds h link.clock timeout with
    ⟨id, id', next, next', hfirst, hfirst', hid, hnext⟩ | ⟨e, next, next', hfirst, hfirst', hnext⟩
  · rw [readFrameBy, bind_of_ok hfirst, bind_of_ok hfirst']
    rcases (readTail_started hnext).ok_or_error with
      ⟨bs, last, last', htail, htail', hlast⟩ | ⟨e, last, last', htail, htail', hlast⟩
    · rw [bind_of_ok htail, bind_of_ok htail']
      exact .inl ⟨id, id', bs, _, _, rfl, rfl, hid, hlast.note _ (.bytesIn (id' :: bs))⟩
    · rw [bind_of_error htail, bind_of_error htail']
      exact .inr ⟨e, last, last', rfl, rfl, 1, hlast⟩
  · rw [readFrameBy, bind_of_error hfirst, bind_of_error hfirst']
    exact .inr ⟨e, next, next', rfl, rfl, 0, hnext⟩

end LinkM

namespace Link

/-! ### Writing -/

/-- The other side is gone on both or on neither. -/
theorem SameButIds.isGone_eq {free : Nat → Prop} {link link' : Link}
    (h : SameButIds free link link') : link'.isGone = link.isGone := by
  have hnil : (link'.incoming = []) = (link.incoming = []) := by
    rw [← List.length_eq_zero_iff, h.length_incoming_eq, List.length_eq_zero_iff]
  have hidle : link'.idle = link.idle := by
    obtain ⟨incoming, answers, noticed, rfl, -⟩ := h
    rfl
  simp only [isGone, hidle, hnil]

/-- Handing over makes the first answer arrive. -/
theorem feed_flushed (link : Link) :
    feed link.flushed.incoming link.flushed.answers =
      (feed link.incoming link.answers).erase none := by
  show feed (link.incoming ++ (link.answers.headD []).map .byte) link.answers.tail = _
  match link.answers with
  | [] =>
    rw [feed, feed, erase_none_append, List.headD_nil, List.map_nil, List.append_nil]
    rfl
  | answer :: answers =>
    rw [feed, feed, coming_cons, erase_none_append, List.erase_cons_head, List.headD_cons,
      List.tail_cons, feed, List.map_append, List.append_assoc]

namespace SameButIds

variable {free : Nat → Prop} {link link' : Link}

theorem lockstep_writeAll (bs : Bytes) :
    Lockstep (SameButIds free) (LinkM.writeAll bs) (LinkM.writeAll bs) := by
  refine Link.lockstep_writeAll (fun h ↦ ?_) (fun bs h ↦ ?_) bs
  · have hgone := h.isGone_eq
    obtain ⟨incoming, answers, noticed, rfl, -⟩ := h
    exact ⟨rfl, hgone, rfl⟩
  · obtain ⟨incoming, answers, noticed, rfl, hfeed⟩ := h
    exact ⟨incoming, answers, noticed, rfl, hfeed⟩

theorem lockstep_flush : Lockstep (SameButIds free) LinkM.flush LinkM.flush := by
  refine Link.lockstep_flush (fun h ↦ ?_) (fun h ↦ ?_) fun {link _} h _ ↦ ?_
  · have hgone := h.isGone_eq
    obtain ⟨incoming, answers, noticed, rfl, -⟩ := h
    rw [flushFailure?, flushFailure?, hgone]
    rfl
  · obtain ⟨incoming, answers, noticed, rfl, hfeed⟩ := h
    exact ⟨incoming, answers, noticed, rfl, hfeed⟩
  · obtain ⟨incoming, answers, noticed, rfl, hfeed⟩ := h
    refine ⟨_, _, noticed, rfl, ?_⟩
    have hflushed := feed_flushed (link.refill incoming answers noticed)
    show ButIds free (feed link.flushed.incoming link.flushed.answers)
      (feed (link.refill incoming answers noticed).flushed.incoming
        (link.refill incoming answers noticed).flushed.answers)
    rw [feed_flushed, hflushed]
    exact hfeed.erase

/-- A request is written in lockstep. -/
theorem sendRequest (h : SameButIds free link link') (id : UInt8) (request : RequestCode)
    (payload : Bytes) :
    Agree (SameButIds free) (LinkM.sendRequest id request payload link)
      (LinkM.sendRequest id request payload link') := by
  have hnote (notice : Notice) :
      Lockstep (SameButIds free) (LinkM.note notice) (LinkM.note notice) :=
    .modify fun _ _ hl ↦ hl.note notice notice
  refine Lockstep.bind ?_ (fun frame ↦ ?_) h
  · exact Hidden.lockstep_ofExcept _
  refine (hnote _).bind fun _ ↦ (hnote _).bind fun _ ↦ ?_
  exact (lockstep_writeAll frame).bind fun _ ↦ lockstep_flush

end SameButIds

end Link

end LoraConcentrator
