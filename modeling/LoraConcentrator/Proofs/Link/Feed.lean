import LoraConcentrator.Proofs.Link.Notices

/-!
# What reads will meet

Reads meet what has arrived, and later what the device answers, each answer once its flush was
made: one sequence, with a mark for every flush that something waits for (`Link.feed`).

The first byte of a frame is the id that it carries. Nothing marks where a frame starts, so which of
the bytes to come are ids is a matter of how they are read: what a reader takes of a frame after its
first byte (`FrameTail`) depends on what stands there, and where it stops the next frame starts.
Read in this way, two sequences may differ in ids alone (`ButIds`).
-/

namespace LoraConcentrator

open Program

namespace Link

/-! ### What reads will meet -/

/-- What the device will answer, each answer behind a mark for the flush that it waits for. -/
def coming (answers : List Bytes) : List (Option Arrival) :=
  answers.flatMap fun answer ↦ none :: (answer.map Arrival.byte).map some

/-- What reads will meet: what has arrived, and then what the device will answer. -/
def feed (incoming : List Arrival) (answers : List Bytes) : List (Option Arrival) :=
  incoming.map some ++ coming answers

/-- An answer comes behind a mark for the request that it answers. -/
theorem coming_cons (answer : Bytes) (answers : List Bytes) :
    coming (answer :: answers) = none :: feed (answer.map .byte) answers := by
  rw [coming, List.flatMap_cons, List.cons_append]
  rfl

/-- What starts with arrivals has arrived so far. -/
theorem exists_of_feed_eq_append {incoming front : List Arrival} {answers : List Bytes}
    {rest : List (Option Arrival)} (h : feed incoming answers = front.map some ++ rest) :
    ∃ left, incoming = front ++ left ∧ rest = feed left answers := by
  induction front generalizing incoming with
  | nil => exact ⟨incoming, rfl, h.symm⟩
  | cons a front ih =>
    match incoming, h with
    | [], h =>
      cases answers with
      | nil => cases h
      | cons answer answers =>
        rw [feed, coming_cons] at h
        cases h
    | b :: incoming, h =>
      obtain ⟨hhead, htail⟩ := List.cons_eq_cons.1 h
      obtain ⟨left, rfl, hrest⟩ := ih htail
      rw [Option.some.inj hhead]
      exact ⟨left, rfl, hrest⟩

/-- What a feed starts with is the first of what has arrived. -/
theorem exists_of_feed_eq_cons {incoming : List Arrival} {answers : List Bytes} {a : Arrival}
    {rest : List (Option Arrival)} (h : feed incoming answers = some a :: rest) :
    ∃ left, incoming = a :: left ∧ rest = feed left answers := by
  have hfront : feed incoming answers = [a].map some ++ rest := h
  exact exists_of_feed_eq_append hfront

/-- What starts with the mark of a flush has not arrived. -/
theorem eq_nil_of_feed_eq_none {incoming : List Arrival} {answers : List Bytes}
    {rest : List (Option Arrival)} (h : feed incoming answers = none :: rest) : incoming = [] := by
  match incoming, h with
  | [], _ => rfl
  | a :: incoming, h => cases (List.cons_eq_cons.1 h).1

/-- What will be answered has not arrived. -/
theorem eq_nil_of_feed_eq_coming {incoming : List Arrival} {answers answers' : List Bytes}
    (h : coming answers' = feed incoming answers) : incoming = [] := by
  match incoming, answers', h with
  | [], _, _ => rfl
  | a :: incoming, [], h => cases h
  | a :: incoming, answer :: answers', h =>
    rw [coming_cons] at h
    cases (List.cons_eq_cons.1 h).1

/-- What has arrived and what will be answered can be told from what reads will meet. -/
theorem feed_injective {incoming incoming' : List Arrival} {answers answers' : List Bytes}
    (h : feed incoming answers = feed incoming' answers') :
    incoming = incoming' ∧ answers = answers' := by
  obtain ⟨left, rfl, hrest⟩ := exists_of_feed_eq_append h
  obtain rfl := eq_nil_of_feed_eq_coming hrest
  refine ⟨List.append_nil _, ?_⟩
  -- only the answers are left to compare
  replace hrest : coming answers' = coming answers := hrest
  clear h
  induction answers generalizing answers' with
  | nil =>
    match answers', hrest with
    | [], _ => rfl
    | answer :: answers', h => cases h
  | cons answer answers ih =>
    match answers', hrest with
    | [], h => cases h
    | answer' :: answers', h =>
      rw [coming_cons, coming_cons] at h
      have h := (List.cons_eq_cons.1 h).2
      obtain ⟨left, hanswer, hrest⟩ := exists_of_feed_eq_append h
      obtain rfl := eq_nil_of_feed_eq_coming hrest
      rw [List.append_nil] at hanswer
      rw [List.map_injective_iff.2 (fun _ _ ↦ Arrival.byte.inj) hanswer, ih hrest.symm]

/-- As much has arrived as comes before the first mark. -/
theorem length_takeWhile_isSome (incoming : List Arrival) (answers : List Bytes) :
    ((feed incoming answers).map Option.isSome |>.takeWhile id).length = incoming.length := by
  induction incoming with
  | nil =>
    cases answers with
    | nil => rfl
    | cons answer answers =>
      rw [feed, coming_cons]
      rfl
  | cons a incoming ih => exact congrArg (· + 1) ih

/-- Arrivals in front add to those that follow. -/
theorem count_isSome_append (arrivals : List Arrival) (rest : List (Option Arrival)) :
    ((arrivals.map some ++ rest).map Option.isSome).count true =
      arrivals.length + (rest.map Option.isSome).count true := by
  induction arrivals with
  | nil => exact (Nat.zero_add _).symm
  | cons a arrivals ih =>
    have hcons : ((some a :: (arrivals.map some ++ rest)).map Option.isSome).count true =
        ((arrivals.map some ++ rest).map Option.isSome).count true + 1 := List.count_cons_self
    rw [List.map_cons, List.cons_append, hcons, ih, List.length_cons, Nat.add_right_comm]

/-- There are as many arrivals as have arrived or will be answered. -/
theorem count_isSome (incoming : List Arrival) (answers : List Bytes) :
    ((feed incoming answers).map Option.isSome).count true =
      incoming.length + answers.flatten.length := by
  rw [feed, count_isSome_append]
  congr 1
  induction answers with
  | nil => rfl
  | cons answer answers ih =>
    rw [coming_cons, List.map_cons, List.count_cons_of_ne (by decide), feed, count_isSome_append,
      ih, List.length_map, List.flatten_cons, List.length_append]

/-! ### Frames that are read -/

/-- What a reader takes of a frame after its first byte: a frame that fits the reply buffer, the
header of one that does not, or as many bytes as come before a read fails or finds the stream
ended. -/
inductive FrameTail : List Arrival → Prop
  | whole {high low tag : UInt8} {payload : Bytes} :
    payload.length = (BigEndian.decode16 high low).toNat →
      Header.byteCount + payload.length ≤ LinkM.replyCapacity →
        FrameTail ((high :: low :: tag :: payload).map .byte)
  | tooLarge {high low tag : UInt8} :
    LinkM.replyCapacity < Header.byteCount + (BigEndian.decode16 high low).toNat →
      FrameTail ([high, low, tag].map .byte)
  | cutHeader {bs : Bytes} {stop : Arrival} :
    bs.length < Header.byteCount - 1 → stop.byte? = none → FrameTail (bs.map .byte ++ [stop])
  | cutPayload {high low tag : UInt8} {bs : Bytes} {stop : Arrival} :
    bs.length < (BigEndian.decode16 high low).toNat →
      Header.byteCount + (BigEndian.decode16 high low).toNat ≤ LinkM.replyCapacity →
        stop.byte? = none → FrameTail ((high :: low :: tag :: bs).map .byte ++ [stop])

/-- What reads will meet is the same but for the ids of frames, by their position, that are free. -/
inductive ButIds : (free : Nat → Prop) → List (Option Arrival) → List (Option Arrival) → Prop
  | same (free : Nat → Prop) (feed : List (Option Arrival)) : ButIds free feed feed
  /-- A frame begins, whatever becomes of it. -/
  | begun {free : Nat → Prop} (id id' : UInt8) (feed : List (Option Arrival)) :
    free 0 → ButIds free (some (.byte id) :: feed) (some (.byte id') :: feed)
  /-- No frame begins. -/
  | pause {free : Nat → Prop} {a : Option Arrival} {feed feed' : List (Option Arrival)} :
    a.bind Arrival.byte? = none → ButIds free feed feed' → ButIds free (a :: feed) (a :: feed')
  | frame {free : Nat → Prop} {id id' : UInt8} {tail : List Arrival}
    {feed feed' : List (Option Arrival)} :
    (¬ free 0 → id' = id) → FrameTail tail → ButIds (fun i ↦ free (i + 1)) feed feed' →
      ButIds free (some (.byte id) :: (tail.map some ++ feed))
        (some (.byte id') :: (tail.map some ++ feed'))

theorem erase_none_cons (a : Arrival) (feed : List (Option Arrival)) :
    (some a :: feed).erase none = some a :: feed.erase none :=
  List.erase_cons_tail (by simp)

theorem erase_none_append (arrivals : List Arrival) (feed : List (Option Arrival)) :
    (arrivals.map some ++ feed).erase none = arrivals.map some ++ feed.erase none := by
  refine List.erase_append_right _ fun h ↦ ?_
  obtain ⟨a, -, ha⟩ := List.mem_map.1 h
  cases ha

namespace ButIds

variable {free : Nat → Prop} {feed feed' : List (Option Arrival)}

/-- More ids may be free. -/
theorem mono {free' : Nat → Prop} (h : ButIds free feed feed') (hfree : ∀ i, free i → free' i) :
    ButIds free' feed feed' := by
  induction h generalizing free' with
  | same free feed => exact .same free' feed
  | begun id id' feed hbegun => exact .begun id id' feed (hfree 0 hbegun)
  | pause hpause _ ih => exact .pause hpause (ih hfree)
  | frame hid htail _ ih =>
    exact .frame (fun hkept ↦ hid fun h ↦ hkept (hfree 0 h)) htail (ih fun i ↦ hfree (i + 1))

/-- Nothing differs where no id is free. -/
theorem eq_of_not_free (h : ButIds free feed feed') (hfree : ∀ i, ¬ free i) : feed' = feed := by
  induction h with
  | same free feed => rfl
  | begun id id' feed hbegun => exact absurd hbegun (hfree 0)
  | pause _ _ ih => rw [ih hfree]
  | frame hid _ _ ih => rw [hid (hfree 0), ih fun i ↦ hfree (i + 1)]

/-- The same things are arrivals. -/
theorem map_isSome_eq (h : ButIds free feed feed') :
    feed'.map Option.isSome = feed.map Option.isSome := by
  induction h with
  | same free feed => rfl
  | begun id id' feed => rfl
  | pause _ _ ih => rw [List.map_cons, List.map_cons, ih]
  | frame _ _ _ ih =>
    rw [List.map_cons, List.map_cons, List.map_append, List.map_append, ih]
    rfl

/-- The first flush brings the next answer. -/
theorem erase (h : ButIds free feed feed') : ButIds free (feed.erase none) (feed'.erase none) := by
  induction h with
  | same free feed => exact .same free _
  | begun id id' feed hbegun =>
    rw [erase_none_cons, erase_none_cons]
    exact .begun id id' _ hbegun
  | @pause free a feed feed' hpause hfeed ih =>
    cases a with
    | none =>
      rw [List.erase_cons_head, List.erase_cons_head]
      exact hfeed
    | some a =>
      rw [erase_none_cons, erase_none_cons]
      exact .pause hpause ih
  | frame hid htail _ ih =>
    rw [erase_none_cons, erase_none_cons, erase_none_append, erase_none_append]
    exact .frame hid htail ih

end ButIds

end Link

end LoraConcentrator
