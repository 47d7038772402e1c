import LoraConcentrator.Proofs.Link.Kept
import LoraConcentrator.Proofs.Link.Lockstep
import LoraConcentrator.Proofs.Link.Movement

/-!
# Faulty writes

Writing everything goes on after a short write and after an interrupted one. Any other fault of a
write ends it, wherever among the bytes it strikes, and so does a link whose other side is gone. So
what the writing comes to can be told beforehand (`Link.writeFailure?`), and in any case the bytes
that were accepted are the start of those offered: all of them exactly when no write met more than
an interruption (`Link.Accepted`, `LinkM.exists_writeAll_eq`). Handing over fails with the next
fault of a flush, whatever its kind (`Link.flushFailure?`).

While nothing goes wrong but interruptions, it shows nowhere into how many pieces the bytes are cut.
Main statement: no program of the library can tell the pieces that writes accept
(`Link.hidden_sameButPieces`).
-/

namespace LoraConcentrator

open Program

/-- The failure that a fault of a write ends writing everything with, if it does. -/
def WriteFault.failure? : WriteFault → Option IoFailure
  | failure f => if f.kind = .interrupted then none else some f
  | refusal => some ⟨.writeZero, "failed to write whole buffer"⟩

/-- Only an interruption does not end the writing. -/
theorem WriteFault.failure?_eq_none_iff {fault : WriteFault} :
    fault.failure? = none ↔ ∃ f, fault = .failure f ∧ f.kind = .interrupted := by
  cases fault <;> simp [failure?]

theorem WriteFault.failure?_failure_eq_some_iff {f failure : IoFailure} :
    (WriteFault.failure f).failure? = some failure ↔ f.kind ≠ .interrupted ∧ f = failure := by
  simp [failure?]

namespace Link

/-! ### What writing comes to -/

/-- The failure that writing so many more bytes ends with, if there is one: by what goes wrong with
each write, where a write that nothing goes wrong with takes its share of the bytes. -/
def failureAmong (gone : Bool) (limit : Nat → Nat) :
    (faults : List (Option WriteFault)) → (writes left : Nat) → Option IoFailure
  | _, _, 0 => none
  | [], _, _ + 1 => if gone then some brokenPipe else none
  | some fault :: faults, writes, left + 1 =>
    fault.failure?.or (failureAmong gone limit faults (writes + 1) (left + 1))
  | none :: faults, writes, left + 1 =>
    if gone then some brokenPipe
    else
      failureAmong gone limit faults (writes + 1) (left + 1 - share (limit writes) (left + 1))

/-- The failure that writing `n` bytes ends with, if there is one. -/
def writeFailure? (link : Link) (n : Nat) : Option IoFailure :=
  failureAmong link.isGone link.writeLimit link.writeFaults link.writes n

/-- The link takes `n` bytes: writing them does not fail. -/
def Takes (link : Link) (n : Nat) : Prop := link.writeFailure? n = none

instance (link : Link) (n : Nat) : Decidable (link.Takes n) :=
  inferInstanceAs (Decidable (_ = none))

/-- Nothing goes wrong with the next writes but interruptions. -/
def Undisturbed (link : Link) : Prop :=
  ∀ fault, some fault ∈ link.writeFaults → fault.failure? = none

/-- The link after a number of writes, which accepted those bytes. -/
def afterWrites (link : Link) (count : Nat) (bs : Bytes) : Link :=
  { link with
    writes := link.writes + count
    writeFaults := link.writeFaults.drop count
    sent := link.sent ++ bs }

section Steps

variable {link : Link} {bs : Bytes} {fault : WriteFault} {failure : IoFailure} {n : Nat}

theorem afterWrites_zero (link : Link) : link.afterWrites 0 [] = link := by
  rw [afterWrites, List.append_nil]
  rfl

theorem afterWrites_one (link : Link) (bs : Bytes) : link.afterWrites 1 bs = link.written bs := by
  rw [afterWrites, List.drop_one]
  rfl

/-- The writes after the first one add to what that one accepted. -/
theorem afterWrites_written (link : Link) (bs : Bytes) (count : Nat) (more : Bytes) :
    (link.written bs).afterWrites count more = link.afterWrites (count + 1) (bs ++ more) := by
  have hwrites : link.writes + 1 + count = link.writes + (count + 1) := by
    rw [Nat.add_assoc, Nat.add_comm 1]
  simp only [afterWrites, written, List.drop_tail, List.append_assoc, hwrites]

/-- A link accepts at least one of the bytes offered when nothing goes wrong. -/
theorem accepting_pos (link : Link) {offered : Nat} (h : 0 < offered) :
    0 < link.accepting offered := by
  rw [accepting, share]
  split <;> omega

/-- A write leaves no more faults to come than there were. -/
theorem length_writeFaults_written_le (link : Link) (bs : Bytes) :
    (link.written bs).writeFaults.length ≤ link.writeFaults.length :=
  (List.tail_suffix link.writeFaults).length_le

/-- A write that meets a fault leaves fewer to come. -/
theorem length_writeFaults_written_lt (hfault : link.writeFaults.headD none = some fault)
    (bs : Bytes) : (link.written bs).writeFaults.length < link.writeFaults.length := by
  rcases hfaults : link.writeFaults with - | ⟨_, faults⟩
  · rw [hfaults] at hfault
    cases hfault
  · simp only [written, hfaults, List.tail_cons, List.length_cons, Nat.lt_add_one]

/-- No bytes are written without a failure. -/
@[simp]
theorem writeFailure?_zero (link : Link) : link.writeFailure? 0 = none := by
  rw [writeFailure?, failureAmong.eq_def]

/-- A write that meets a fault accepts nothing: the fault ends the writing, or the writes after it
decide. -/
theorem writeFailure?_of_fault (hfault : link.writeFaults.headD none = some fault) (hn : n ≠ 0) :
    link.writeFailure? n = fault.failure?.or ((link.written []).writeFailure? n) := by
  obtain ⟨n, rfl⟩ := Nat.exists_eq_succ_of_ne_zero hn
  rcases hfaults : link.writeFaults with - | ⟨_, faults⟩
  · rw [hfaults] at hfault
    cases hfault
  · rw [hfaults, List.headD_cons] at hfault
    subst hfault
    simp only [writeFailure?, hfaults, failureAmong, written, List.tail_cons]
    rfl

/-- A link whose other side is gone accepts nothing. -/
theorem writeFailure?_of_gone (hfault : link.writeFaults.headD none = none) (hgone : link.isGone)
    (hn : n ≠ 0) : link.writeFailure? n = some brokenPipe := by
  obtain ⟨n, rfl⟩ := Nat.exists_eq_succ_of_ne_zero hn
  rcases hfaults : link.writeFaults with - | ⟨_, faults⟩
  · simp only [writeFailure?, hfaults, failureAmong, if_pos hgone]
  · rw [hfaults, List.headD_cons] at hfault
    subst hfault
    simp only [writeFailure?, hfaults, failureAmong, if_pos hgone]

/-- After a write that nothing went wrong with, the rest of the bytes decides. -/
theorem writeFailure?_of_accepted (hfault : link.writeFaults.headD none = none)
    (hgone : ¬ link.isGone) (bs : Bytes) (n : Nat) :
    link.writeFailure? n = (link.written bs).writeFailure? (n - link.accepting n) := by
  have hgone' : (link.written bs).isGone = link.isGone := rfl
  rcases n with - | n
  · rw [Nat.zero_sub, writeFailure?_zero, writeFailure?_zero]
  rcases hfaults : link.writeFaults with - | ⟨_, faults⟩
  · -- nothing will ever go wrong
    simp only [writeFailure?, hgone']
    simp only [written, hfaults, List.tail_nil]
    rcases n + 1 - link.accepting (n + 1) with - | left
    · rw [failureAmong, failureAmong.eq_def, if_neg hgone]
    · rw [failureAmong, failureAmong, if_neg hgone]
  · rw [hfaults, List.headD_cons] at hfault
    subst hfault
    simp only [writeFailure?, hgone']
    simp only [written, hfaults, List.tail_cons, failureAmong, if_neg hgone]
    rfl

end Steps

/-! ### What writes accept -/

/-- A number of writes accepted some of the bytes offered, from the front of them: all of them
exactly when the writes met no more than interruptions, and any at all exactly when the link takes a
first byte. -/
structure Accepted (link : Link) (bs : Bytes) (count : Nat) (sent : Bytes) : Prop where
  start : sent <+: bs
  whole_iff : sent = bs ↔ link.Takes bs.length
  undisturbed_iff : link.Takes bs.length ↔ (bs ≠ [] → ¬ link.isGone) ∧
    ∀ fault, some fault ∈ link.writeFaults.take count → fault.failure? = none
  begun_iff : sent ≠ [] ↔ bs ≠ [] ∧ link.Takes 1

namespace Accepted

variable {link : Link} {bs sent : Bytes} {count : Nat} {fault : WriteFault} {failure : IoFailure}

/-- Nothing is written in no write. -/
theorem nil (link : Link) : Accepted link [] 0 [] where
  start := List.nil_prefix
  whole_iff := iff_of_true rfl (writeFailure?_zero link)
  undisturbed_iff := iff_of_true (writeFailure?_zero link)
    ⟨fun h ↦ absurd rfl h, fun _ h ↦ absurd h List.not_mem_nil⟩
  begun_iff := iff_of_false (fun h ↦ h rfl) fun h ↦ h.1 rfl

/-- A write that ends the writing accepts nothing. -/
theorem ended (hbs : bs ≠ []) (hall : link.writeFailure? bs.length ≠ none)
    (hfirst : link.writeFailure? 1 ≠ none)
    (hfault : link.isGone ∨
      ∃ fault, some fault ∈ link.writeFaults.take 1 ∧ fault.failure? ≠ none) :
    Accepted link bs 1 [] where
  start := List.nil_prefix
  whole_iff := iff_of_false (Ne.symm hbs) hall
  undisturbed_iff := iff_of_false hall fun ⟨hgone, hnone⟩ ↦ by
    rcases hfault with hgone' | ⟨fault, hmem, hfailure⟩
    · exact hgone hbs hgone'
    · exact hfailure (hnone fault hmem)
  begun_iff := iff_of_false (fun h ↦ h rfl) fun h ↦ hfirst h.2

/-- A fault that ends the writing is met by one write, which accepts nothing. -/
theorem of_fault (hfault : link.writeFaults.headD none = some fault) (hbs : bs ≠ [])
    (hfailure : fault.failure? = some failure) : Accepted link bs 1 [] := by
  have hfails (n : Nat) (hn : n ≠ 0) : link.writeFailure? n ≠ none := by
    rw [writeFailure?_of_fault hfault hn, hfailure]
    exact Option.some_ne_none failure
  refine ended hbs (hfails _ (mt List.length_eq_zero_iff.1 hbs)) (hfails 1 Nat.one_ne_zero)
    (.inr ⟨fault, ?_, by rw [hfailure]; exact Option.some_ne_none failure⟩)
  rcases hfaults : link.writeFaults with - | ⟨_, faults⟩
  · rw [hfaults] at hfault
    cases hfault
  · rw [hfaults, List.headD_cons] at hfault
    subst hfault
    exact List.mem_cons_self

/-- A link whose other side is gone meets one write, which accepts nothing. -/
theorem of_gone (hfault : link.writeFaults.headD none = none) (hgone : link.isGone)
    (hbs : bs ≠ []) : Accepted link bs 1 [] := by
  have hfails (n : Nat) (hn : n ≠ 0) : link.writeFailure? n ≠ none := by
    rw [writeFailure?_of_gone hfault hgone hn]
    exact Option.some_ne_none brokenPipe
  exact ended hbs (hfails _ (mt List.length_eq_zero_iff.1 hbs)) (hfails 1 Nat.one_ne_zero)
    (.inl hgone)

/-- The faults that writes meet are the first one and those that the writes after it meet. -/
theorem forall_take_succ (link : Link) (bs : Bytes) (count : Nat) :
    (∀ fault, some fault ∈ link.writeFaults.take (count + 1) → fault.failure? = none) ↔
      (∀ fault, link.writeFaults.headD none = some fault → fault.failure? = none) ∧
        ∀ fault, some fault ∈ (link.written bs).writeFaults.take count →
          fault.failure? = none := by
  simp only [written]
  cases link.writeFaults with
  | nil => simp
  | cons fault faults =>
    simp only [List.take_succ_cons, List.mem_cons, List.headD_cons, List.tail_cons]
    constructor
    · exact fun h ↦ ⟨fun f hf ↦ h f (.inl hf.symm), fun f hf ↦ h f (.inr hf)⟩
    · rintro ⟨hfirst, hrest⟩ f (hf | hf)
      · exact hfirst f hf.symm
      · exact hrest f hf

/-- After an interruption all of the bytes are written still. -/
theorem of_interrupted (hfault : link.writeFaults.headD none = some fault) (hbs : bs ≠ [])
    (hnone : fault.failure? = none) (h : Accepted (link.written []) bs count sent) :
    Accepted link bs (count + 1) sent := by
  have htakes (n : Nat) (hn : n ≠ 0) : link.Takes n ↔ (link.written []).Takes n := by
    rw [Takes, Takes, writeFailure?_of_fault hfault hn, hnone, Option.none_or]
  have hall := htakes _ (mt List.length_eq_zero_iff.1 hbs)
  refine ⟨h.start, h.whole_iff.trans hall.symm, hall.trans (h.undisturbed_iff.trans ?_),
    h.begun_iff.trans (and_congr_right' (htakes 1 Nat.one_ne_zero).symm)⟩
  rw [forall_take_succ link [] count]
  refine and_congr Iff.rfl (iff_and_self.2 fun _ f hf ↦ ?_)
  cases hfault.symm.trans hf
  exact hnone

/-- After a write that accepted bytes the rest of them is written. -/
theorem of_accepted (hfault : link.writeFaults.headD none = none) (hgone : ¬ link.isGone)
    (hbs : bs ≠ [])
    (h : Accepted (link.written (bs.take (link.accepting bs.length)))
      (bs.drop (link.accepting bs.length)) count sent) :
    Accepted link bs (count + 1) (bs.take (link.accepting bs.length) ++ sent) := by
  obtain ⟨m, hm⟩ : ∃ m, link.accepting bs.length = m := ⟨_, rfl⟩
  rw [hm] at h ⊢
  have hpos : 0 < m := hm ▸ link.accepting_pos (List.length_pos_iff.2 hbs)
  have hfirst : bs.take m ≠ [] := fun hnil ↦ by
    rcases List.take_eq_nil_iff.1 hnil with hzero | hnil
    · exact Nat.ne_of_gt hpos hzero
    · exact hbs hnil
  have hall : link.Takes bs.length ↔ (link.written (bs.take m)).Takes (bs.drop m).length := by
    rw [Takes, Takes, writeFailure?_of_accepted hfault hgone (bs.take m), hm, List.length_drop]
  have hone : link.Takes 1 := by
    have hshare : 1 - link.accepting 1 = 0 := Nat.sub_eq_zero_of_le (link.accepting_pos Nat.one_pos)
    rw [Takes, writeFailure?_of_accepted hfault hgone [], hshare, writeFailure?_zero]
  refine ⟨?_, ?_, hall.trans (h.undisturbed_iff.trans ?_),
    iff_of_true (fun hnil ↦ hfirst (List.append_eq_nil_iff.1 hnil).1) ⟨hbs, hone⟩⟩
  · obtain ⟨rest, hrest⟩ := h.start
    exact ⟨rest, by rw [List.append_assoc, hrest, List.take_append_drop]⟩
  · rw [hall, ← h.whole_iff]
    constructor
    · intro heq
      exact List.append_cancel_left (heq.trans (List.take_append_drop m bs).symm)
    · rintro rfl
      exact List.take_append_drop m bs
  · rw [forall_take_succ link (bs.take m) count]
    refine and_congr (iff_of_true (fun _ ↦ hgone) fun _ ↦ hgone) (iff_and_self.2 fun _ f hf ↦ ?_)
    cases hfault.symm.trans hf

end Accepted

/-- No write was made. -/
structure Unwritten (link link' : Link) : Prop where
  writes_eq : link'.writes = link.writes
  writeFaults_eq : link'.writeFaults = link.writeFaults
  sent_eq : link'.sent = link.sent

instance : IsPreorder Link Unwritten where
  refl _ := ⟨rfl, rfl, rfl⟩
  trans _ _ _ h h' :=
    ⟨h'.writes_eq.trans h.writes_eq, h'.writeFaults_eq.trans h.writeFaults_eq,
      h'.sent_eq.trans h.sent_eq⟩

theorem keptByReading_unwritten : KeptByReading Unwritten where
  note _ _ := ⟨rfl, rfl, rfl⟩
  read link room := by
    unfold read
    rcases link.incoming with - | ⟨b | ⟨failure, after⟩ | -, rest⟩
    · cases link.idle <;> exact ⟨rfl, rfl, rfl⟩
    all_goals exact ⟨rfl, rfl, rfl⟩

/-- From one link to the other bytes were offered, and no others: a number of writes were made,
which accepted some of them. -/
structure Offered (bs : Bytes) (count : Nat) (sent : Bytes) (link link' : Link) : Prop where
  accepted : Accepted link bs count sent
  made : Unwritten (link.afterWrites count sent) link'

/-- What is read after the writing does not change what was offered. -/
theorem Offered.trans_unwritten {bs sent : Bytes} {count : Nat} {link link' link'' : Link}
    (h : Offered bs count sent link link') (h' : Unwritten link' link'') :
    Offered bs count sent link link'' :=
  ⟨h.accepted, IsTrans.trans _ _ _ h.made h'⟩

end Link

namespace LinkM

open Link

variable {link : Link} {bs : Bytes}

/-! ### Writing everything -/

section WriteAll

variable {fault : WriteFault} {failure : IoFailure}

/-- A fault that ends the writing is the last that it meets. -/
theorem writeAll_of_fault (hbs : bs ≠ []) (hfault : link.writeFaults.headD none = some fault)
    (hfailure : fault.failure? = some failure) :
    writeAll bs link = .error (.io failure) (link.written []) := by
  cases fault with
  | refusal =>
    have hwrite : link.write bs = (.ok 0, link.written []) := by rw [write, hfault]
    cases hfailure
    exact writeAll_of_write hbs hwrite
  | failure f =>
    have hwrite : link.write bs = (.error f, link.written []) := by rw [write, hfault]
    obtain ⟨hkind, rfl⟩ := WriteFault.failure?_failure_eq_some_iff.1 hfailure
    rw [writeAll_of_write hbs hwrite]
    exact if_neg hkind

/-- A write that was interrupted is made again. -/
theorem writeAll_of_interrupted (hbs : bs ≠ []) (hfault : link.writeFaults.headD none = some fault)
    (hnone : fault.failure? = none) : writeAll bs link = writeAll bs (link.written []) := by
  obtain ⟨f, rfl, hkind⟩ := WriteFault.failure?_eq_none_iff.1 hnone
  have hwrite : link.write bs = (.error f, link.written []) := by rw [write, hfault]
  rw [writeAll_of_write hbs hwrite]
  exact if_pos hkind

/-- Nothing is written when the other side is gone. -/
theorem writeAll_of_gone (hbs : bs ≠ []) (hfault : link.writeFaults.headD none = none)
    (hgone : link.isGone) : writeAll bs link = .error (.io brokenPipe) (link.written []) := by
  have hwrite : link.write bs = (.error brokenPipe, link.written []) := by
    rw [write, hfault]
    exact if_pos hgone
  exact writeAll_of_write hbs hwrite

/-- What a write did not accept is written after it. -/
theorem writeAll_of_accepted (hbs : bs ≠ []) (hfault : link.writeFaults.headD none = none)
    (hgone : ¬ link.isGone) :
    writeAll bs link = writeAll (bs.drop (link.accepting bs.length))
      (link.written (bs.take (link.accepting bs.length))) := by
  have hwrite : link.write bs = (.ok (link.accepting bs.length),
      link.written (bs.take (link.accepting bs.length))) := by
    rw [write, hfault]
    exact if_neg hgone
  obtain ⟨n, hn⟩ := Nat.exists_eq_succ_of_ne_zero
    (Nat.ne_of_gt (link.accepting_pos (List.length_pos_iff.2 hbs)))
  rw [writeAll_of_write hbs hwrite]
  simp only [hn]

end WriteAll

/-- What writing everything comes to, and what it leaves. By induction on the bytes and the faults
that are left: an interruption uses up a fault, and a write that accepts bytes some of them. -/
theorem exists_writeAll_eq (link : Link) (bs : Bytes) :
    ∃ count sent, Accepted link bs count sent ∧
      writeAll bs link =
        match link.writeFailure? bs.length with
        | some failure => .error (.io failure) (link.afterWrites count sent)
        | none => .ok () (link.afterWrites count sent) := by
  induction hbound : bs.length + link.writeFaults.length using Nat.strongRecOn
    generalizing bs link with
  | ind bound ih =>
    by_cases hbs : bs = []
    · subst hbs
      refine ⟨0, [], .nil link, ?_⟩
      rw [writeAll, dif_pos rfl, List.length_nil, writeFailure?_zero, afterWrites_zero]
    have hlength : 0 < bs.length := List.length_pos_iff.2 hbs
    have hne : bs.length ≠ 0 := Nat.ne_of_gt hlength
    rcases hfault : link.writeFaults.headD none with - | fault
    · by_cases hgone : link.isGone
      · refine ⟨1, [], .of_gone hfault hgone hbs, ?_⟩
        rw [writeAll_of_gone hbs hfault hgone, writeFailure?_of_gone hfault hgone hne,
          afterWrites_one]
      · have hpos := link.accepting_pos hlength
        have hfaults :=
          link.length_writeFaults_written_le (bs.take (link.accepting bs.length))
        obtain ⟨count, sent, haccepted, hrest⟩ :=
          ih _ (by rw [List.length_drop]; omega)
            (link.written (bs.take (link.accepting bs.length)))
            (bs.drop (link.accepting bs.length)) rfl
        refine ⟨count + 1, _, .of_accepted hfault hgone hbs haccepted, ?_⟩
        rw [afterWrites_written, List.length_drop,
          ← writeFailure?_of_accepted hfault hgone] at hrest
        rw [writeAll_of_accepted hbs hfault hgone, hrest]
    · rcases hfailure : fault.failure? with - | failure
      · have hless := length_writeFaults_written_lt hfault []
        obtain ⟨count, sent, haccepted, hrest⟩ := ih _ (by omega) (link.written []) bs rfl
        refine ⟨count + 1, sent, .of_interrupted hfault hbs hfailure haccepted, ?_⟩
        rw [afterWrites_written, List.nil_append] at hrest
        rw [writeAll_of_interrupted hbs hfault hfailure, writeFailure?_of_fault hfault hne,
          hfailure, Option.none_or, hrest]
      · refine ⟨1, [], .of_fault hfault hbs hfailure, ?_⟩
        rw [writeAll_of_fault hbs hfault hfailure, writeFailure?_of_fault hfault hne, hfailure,
          Option.some_or, afterWrites_one]

/-! ### Writing a request -/

/-- The outcome of writing a request: its frame is written, and then handed over. -/
theorem exists_sendRequest_eq {id : UInt8} {request : RequestCode} {payload frame : Bytes}
    (hframe : requestFrame id request payload = .ok frame) (link : Link) :
    ∃ noticed count sent, Accepted link frame count sent ∧
      sendRequest id request payload link =
        match link.writeFailure? frame.length, link.flushFailure? with
        | some failure, _ =>
          .error (.io failure) { link.afterWrites count sent with noticed := noticed }
        | none, some failure =>
          .error (.io failure) { (link.afterWrites count sent).unhanded with noticed := noticed }
        | none, none =>
          .ok () { (link.afterWrites count sent).flushed with noticed := noticed } := by
  let noted := (link.note (.request request id (frame.length - Header.byteCount))).note
    (.bytesOut frame)
  obtain ⟨count, sent, haccepted, hwrite⟩ := exists_writeAll_eq noted frame
  have hsend : sendRequest id request payload link = (writeAll frame >>= fun _ ↦ flush) noted := by
    rw [sendRequest, hframe]
    rfl
  have hwriteFailure : noted.writeFailure? frame.length = link.writeFailure? frame.length := rfl
  have hflushFailure : (noted.afterWrites count sent).flushFailure? = link.flushFailure? := rfl
  refine ⟨noted.noticed, count, sent, ⟨haccepted.start, haccepted.whole_iff,
    haccepted.undisturbed_iff, haccepted.begun_iff⟩, ?_⟩
  rw [hsend]
  cases hfailure : link.writeFailure? frame.length with
  | some failure =>
    rw [hwriteFailure, hfailure] at hwrite
    exact bind_of_error hwrite
  | none =>
    rw [hwriteFailure, hfailure] at hwrite
    rw [bind_of_ok hwrite, flush_eq, hflushFailure]
    cases link.flushFailure? with
    | some failure => rfl
    | none => rfl

/-- Writing a request offers its frame, whatever comes of it. -/
theorem offered_of_sendRequest {id : UInt8} {request : RequestCode} {payload frame : Bytes}
    {link' : Link} (hframe : requestFrame id request payload = .ok frame)
    (h : sendRequest id request payload link = .ok () link' ∨
      ∃ e, sendRequest id request payload link = .error e link') :
    ∃ count sent, Offered frame count sent link link' := by
  obtain ⟨noticed, count, sent, haccepted, hsend⟩ := exists_sendRequest_eq hframe link
  refine ⟨count, sent, haccepted, ?_⟩
  rw [hsend] at h
  revert h
  rcases link.writeFailure? frame.length with - | failure
  · rcases link.flushFailure? with - | failure
    all_goals
      rintro (h | ⟨e, h⟩)
      all_goals cases h
      exact ⟨rfl, rfl, rfl⟩
  · rintro (h | ⟨e, h⟩)
    all_goals cases h
    exact ⟨rfl, rfl, rfl⟩

end LinkM

/-! ### Pieces that writes accept -/

namespace Link

section Undisturbed

variable {link : Link}

/-- A link of which no more is known than that nothing goes wrong takes all bytes, unless the other
side is gone. By induction on the faults. -/
theorem Undisturbed.writeFailure?_eq (h : link.Undisturbed) {n : Nat} (hn : n ≠ 0) :
    link.writeFailure? n = if link.isGone then some brokenPipe else none := by
  rw [writeFailure?]
  rw [Undisturbed] at h
  generalize link.writes = writes
  generalize link.writeFaults = faults at h
  induction faults generalizing writes n with
  | nil =>
    obtain ⟨n, rfl⟩ := Nat.exists_eq_succ_of_ne_zero hn
    rw [failureAmong]
  | cons fault faults ih =>
    obtain ⟨n, rfl⟩ := Nat.exists_eq_succ_of_ne_zero hn
    have hrest : ∀ fault, some fault ∈ faults → fault.failure? = none :=
      fun fault hfault ↦ h fault (List.mem_cons_of_mem _ hfault)
    cases fault with
    | some fault =>
      rw [failureAmong, h fault List.mem_cons_self, Option.none_or, ih hn _ hrest]
    | none =>
      rw [failureAmong]
      by_cases hgone : link.isGone
      · rw [if_pos hgone, if_pos hgone]
      · rw [if_neg hgone, if_neg hgone]
        rcases hleft : n + 1 - share (link.writeLimit writes) (n + 1) with - | left
        · rw [failureAmong.eq_def]
        · rw [ih (Nat.succ_ne_zero left) _ hrest, if_neg hgone]

/-- Such a link takes bytes while the other side is there. -/
theorem Undisturbed.takes (h : link.Undisturbed) (hgone : ¬ link.isGone) (n : Nat) :
    link.Takes n := by
  rcases Nat.eq_zero_or_pos n with rfl | hn
  · exact writeFailure?_zero link
  · rw [Takes, h.writeFailure?_eq (Nat.ne_of_gt hn), if_neg hgone]

/-- With no faults to come nothing goes wrong. -/
theorem undisturbed_of_noFaults (hfaults : link.writeFaults = []) : link.Undisturbed :=
  fun _ hfault ↦ absurd (hfaults ▸ hfault) List.not_mem_nil

/-- Writes leave an undisturbed link undisturbed. -/
theorem Undisturbed.afterWrites (h : link.Undisturbed) (count : Nat) (bs : Bytes) :
    (link.afterWrites count bs).Undisturbed :=
  fun fault hfault ↦ h fault (List.mem_of_mem_drop hfault)

/-- It accepts all of the bytes offered, or none of them. -/
theorem Accepted.eq_of_undisturbed {bs sent : Bytes} {count : Nat}
    (haccepted : Accepted link bs count sent) (h : link.Undisturbed) :
    sent = if link.isGone then [] else bs := by
  by_cases hgone : link.isGone
  · rw [if_pos hgone]
    refine Decidable.byContradiction fun hsent ↦ ?_
    have htakes := (haccepted.begun_iff.1 hsent).2
    rw [Takes, h.writeFailure?_eq Nat.one_ne_zero, if_pos hgone] at htakes
    cases htakes
  · rw [if_neg hgone]
    exact haccepted.whole_iff.2 (h.takes hgone _)

end Undisturbed

/-- The link with other pieces, after that many writes and with those faults still to come. -/
def withPieces (limit : Nat → Nat) (writes : Nat) (faults : List (Option WriteFault))
    (link : Link) : Link :=
  { link with writeLimit := limit, writes := writes, writeFaults := faults }

/-- The links are the same, but their writes may accept other pieces and be interrupted at other
places. -/
structure SameButPieces (link link' : Link) : Prop where
  left : link.Undisturbed
  right : link'.Undisturbed
  same : ∃ limit writes faults, link' = link.withPieces limit writes faults

namespace SameButPieces

variable {link link' : Link}

/-- The bytes that were sent do not tell the pieces. -/
theorem sent_eq (h : SameButPieces link link') : link'.sent = link.sent := by
  obtain ⟨limit, writes, faults, rfl⟩ := h.same
  rfl

theorem isGone_eq (h : SameButPieces link link') : link'.isGone = link.isGone := by
  obtain ⟨limit, writes, faults, rfl⟩ := h.same
  rfl

/-- What neither looks at the pieces nor changes them keeps links the same but for them. -/
theorem map (h : SameButPieces link link') (f : Link → Link)
    (hf : ∀ limit writes faults,
      f (link.withPieces limit writes faults) = (f link).withPieces limit writes faults)
    (hfaults : (f link).writeFaults = link.writeFaults) : SameButPieces (f link) (f link') := by
  obtain ⟨hleft, hright, limit, writes, faults, rfl⟩ := h
  refine ⟨fun fault hfault ↦ hleft fault (hfaults ▸ hfault), fun fault hfault ↦ ?_,
    limit, writes, faults, hf limit writes faults⟩
  rw [hf] at hfault
  exact hright fault hfault

/-- However many writes it took, what was accepted is the same. -/
theorem afterWrites (h : SameButPieces link link') (count count' : Nat) (bs : Bytes) :
    SameButPieces (link.afterWrites count bs) (link'.afterWrites count' bs) := by
  refine ⟨h.left.afterWrites count bs, h.right.afterWrites count' bs, ?_⟩
  obtain ⟨limit, writes, faults, rfl⟩ := h.same
  exact ⟨limit, writes + count', faults.drop count', rfl⟩

/-- Reading does not look at pieces. -/
theorem read (h : SameButPieces link link') (room : Nat) :
    (link'.read room).1 = (link.read room).1 ∧
      SameButPieces (link.read room).2 (link'.read room).2 := by
  have hread : ∀ limit writes faults, (link.withPieces limit writes faults).read room =
      ((link.read room).1, (link.read room).2.withPieces limit writes faults) := by
    intro limit writes faults
    unfold Link.read
    rcases hin : link.incoming with - | ⟨b | ⟨failure, after⟩ | -, rest⟩
    · cases hidle : link.idle <;> simp only [withPieces, hin, hidle]
    all_goals simp only [withPieces, hin]
    rfl
  have hfaults : (link.read room).2.writeFaults = link.writeFaults := by
    unfold Link.read
    rcases link.incoming with - | ⟨b | ⟨failure, after⟩ | -, rest⟩
    · cases link.idle <;> rfl
    all_goals rfl
  refine ⟨?_, h.map (fun link ↦ (link.read room).2) (fun limit writes faults ↦ ?_) hfaults⟩
  · obtain ⟨limit, writes, faults, rfl⟩ := h.same
    rw [hread]
  · rw [hread]

end SameButPieces

/-- Reads of the same length find the same. -/
theorem readsAlike_sameButPieces (room : Nat) : ReadsAlike SameButPieces room := by
  intro link link' next outcome h hread
  obtain ⟨houtcome, hnext⟩ := h.read room
  rw [hread] at houtcome hnext
  exact ⟨(link'.read room).2, Prod.ext houtcome rfl, hnext⟩

/-- Whatever the pieces, as much is written in the end. -/
theorem lockstep_writeAll_sameButPieces (bs : Bytes) :
    Lockstep SameButPieces (LinkM.writeAll bs) (LinkM.writeAll bs) := by
  intro link link' h
  obtain ⟨count, sent, haccepted, hwrite⟩ := LinkM.exists_writeAll_eq link bs
  obtain ⟨count', sent', haccepted', hwrite'⟩ := LinkM.exists_writeAll_eq link' bs
  have hsent : sent' = sent := by
    rw [haccepted.eq_of_undisturbed h.left, haccepted'.eq_of_undisturbed h.right, h.isGone_eq]
  have hfailure : link'.writeFailure? bs.length = link.writeFailure? bs.length := by
    rcases Nat.eq_zero_or_pos bs.length with hzero | hpos
    · rw [hzero, writeFailure?_zero, writeFailure?_zero]
    · have hlength := Nat.ne_of_gt hpos
      rw [h.left.writeFailure?_eq hlength, h.right.writeFailure?_eq hlength, h.isGone_eq]
  rw [hwrite, hwrite', hfailure, hsent]
  cases link.writeFailure? bs.length with
  | some failure => exact .error (h.afterWrites count count' sent)
  | none => exact .ok (h.afterWrites count count' sent)

/-- No program of the library can tell the pieces that writes accept. -/
theorem hidden_sameButPieces : Hidden SameButPieces where
  clock_eq h := by
    obtain ⟨limit, writes, faults, rfl⟩ := h.same
    rfl
  incoming_eq h := by
    obtain ⟨limit, writes, faults, rfl⟩ := h.same
    rfl
  note notice h := h.map (Link.note · notice) (fun _ _ _ ↦ rfl) rfl
  readOne := readsAlike_sameButPieces 1
  readRest := lockstep_readRest readsAlike_sameButPieces fun notice h ↦
    h.map (Link.note · notice) (fun _ _ _ ↦ rfl) rfl
  answers_eq h := by
    obtain ⟨limit, writes, faults, rfl⟩ := h.same
    rfl
  pass time h := h.map (Link.pass · time) (fun _ _ _ ↦ rfl) rfl
  close {link _} h := by
    refine h.map Link.close (fun limit writes faults ↦ ?_) ?_
    all_goals
      unfold Link.close
      rcases hport : link.port with - | path
    · simp only [withPieces, hport]
    · simp only [withPieces, hport]
      rfl
    · rfl
    · rfl
  writeAll := lockstep_writeAll_sameButPieces
  flush := by
    refine lockstep_flush (fun h ↦ ?_) (fun h ↦ h.map Link.unhanded (fun _ _ _ ↦ rfl) rfl)
      fun h _ ↦ h.map Link.flushed (fun _ _ _ ↦ rfl) rfl
    obtain ⟨limit, writes, faults, rfl⟩ := h.same
    rfl
  opening_eq h := by
    obtain ⟨limit, writes, faults, rfl⟩ := h.same
    rfl
  paths_eq h := by
    obtain ⟨limit, writes, faults, rfl⟩ := h.same
    rfl
  attempt path settings h :=
    h.map (fun link ↦ { link with opened := link.opened ++ [(path, settings)] })
      (fun _ _ _ ↦ rfl) rfl
  clear path wait h :=
    h.map (fun link ↦ { link with incoming := [], idle := .silent wait, port := some path })
      (fun _ _ _ ↦ rfl) rfl

end Link

end LoraConcentrator
