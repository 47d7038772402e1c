import LoraConcentrator.Proofs.Controller.Lockstep
import LoraConcentrator.Proofs.Controller.Requests
import LoraConcentrator.Proofs.Link.Kept
import Mathlib.Algebra.Order.Floor.Div

/-!
# Waiting for a transmission

The end of a transmission is not announced, it has to be asked for again and again. A turn whose
answer tells that the transmission is under way is followed by a pause and another turn
(`DialogueM.Polled`), unless the time for it is up; every other answer is the end, and so is an
exchange that fails. The time is looked at between an answer and the pause, so it can be exceeded by
one pause and one exchange, and no more.

Every turn takes at least the pause before it, as the clock never goes back on a link
(`kept_later`), and this bounds the number of turns when there is a pause at all. Main statement:
`DialogueM.awaitTx_polls`.
-/

namespace LoraConcentrator

open Program

/-! ### States of a transmission -/

namespace TxStatus

/-- The transmission is not over, as far as is known. -/
def UnderWay (status : TxStatus) : Prop :=
  status = .loaded ∨ status = .onAir ∨ ∃ code, status = .unknown code

/-- A transmission is under way as long as its state is not a last one. -/
theorem underWay_iff {status : TxStatus} : status.UnderWay ↔ status.isTerminal = false := by
  cases status <;> simp [UnderWay, isTerminal]

/-- Three states say that the transmission failed. -/
theorem isError_iff {status : TxStatus} :
    status.isError = true ↔ status ∈ [badParameter, failedToSend, timedOut] := by
  cases status <;> simp [isError]

/-- What is over without a failure. -/
theorem mem_of_isTerminal {status : TxStatus} (h : status.isTerminal) (herror : ¬ status.isError) :
    status ∈ [idle, done] := by
  cases status <;> simp_all [isTerminal, isError]

end TxStatus

/-! ### Answers use up what arrives -/

namespace Link

/-- The stream is as long as what is pending. -/
theorem length_stream (link : Link) : link.stream.length = link.pending := by
  rw [stream, List.length_append, List.length_map]
  rfl

/-- A movement takes from what is pending. -/
theorem Moved.pending_eq {sent : Bytes} {taken : List Arrival} {link link' : Link}
    (h : Moved sent taken link link') : link.pending = taken.length + link'.pending := by
  rw [← length_stream, ← length_stream, h.stream_eq, List.length_append]

end Link

namespace DialogueM

open Link

variable {d d' : Dialogue}

theorem txStatus_ok {status : TxStatus} (h : txStatus d = .ok status d') :
    ∃ code, ask .getTxStatus (statusByte .txStatus) d = .ok code d' ∧
      status = TxStatus.ofCode code := by
  obtain ⟨code, _, hask, hpure⟩ := bind_eq_ok_iff.1 h
  obtain ⟨rfl, rfl⟩ := pure_eq_ok_iff.1 hpure
  exact ⟨code, hask, rfl⟩

/-- An answer is at least a byte of what was pending. -/
theorem pending_lt_of_txStatus {status : TxStatus} (h : txStatus d = .ok status d') :
    d'.link.pending < d.link.pending := by
  obtain ⟨code, hask, -⟩ := txStatus_ok h
  obtain ⟨written, reply, frame, hx, -⟩ := ask_ok hask
  obtain ⟨waits, -, hm⟩ := hx.moved
  have hreply : 0 < (reply.map Arrival.byte).length := by
    rw [List.length_map]
    exact List.length_pos_iff.2 hx.isFrame.ne_nil
  rw [hm.pending_eq, List.length_append]
  omega

/-! ### The clock of a conversation -/

/-- The clock of the link did not go back. -/
def Later (d d' : Dialogue) : Prop := d.link.clock ≤ d'.link.clock

instance : IsPreorder Dialogue Later where
  refl d := Nat.le_refl d.link.clock.nanos
  trans _ _ _ h h' := Nat.le_trans h h'

/-- Whatever comes of it, an exchange takes no time back, and so no operation does. -/
theorem kept_later : Kept Later (fun _ ↦ False) :=
  kept_of_link Link.kept_later fun link time ↦ Nat.le_add_right link.clock.nanos time.nanos

theorem later_of_txStatus {status : TxStatus} (h : txStatus d = .ok status d') : Later d d' :=
  kept_later.txStatus.of_ok h

/-! ### Turns -/

section Turns

variable {interval limit start : Duration} {n : Nat} {last : Dialogue}

/-- From one dialogue to the other, `n` turns ask for the state of a transmission that began at
`start`. All of them are answered within the limit and tell that it is not over, and each is
followed by a pause. -/
inductive Polled (interval limit start : Duration) : (n : Nat) → Dialogue → Dialogue → Prop
  | none (d : Dialogue) : Polled interval limit start 0 d d
  | again {n : Nat} {d next last : Dialogue} {status : TxStatus} :
    txStatus d = .ok status next → status.UnderWay → next.link.clock - start < limit →
      Polled interval limit start n { next with link := next.link.pass interval } last →
        Polled interval limit start (n + 1) d last

namespace Polled

/-- Every turn writes its request. -/
theorem sent (h : Polled interval limit start n d last) :
    Sent (List.replicate n .getTxStatus) d last := by
  induction h with
  | none d => exact sent_nil rfl (.refl _)
  | again hstatus _ _ _ ih =>
    obtain ⟨code, hask, -⟩ := txStatus_ok hstatus
    have hpause := ((sends_ask _ _).of_ok hask).trans ((sends_pass interval).of_ok rfl)
    exact hpause.trans ih

/-- The pauses alone take their time. -/
theorem clock_ge (h : Polled interval limit start n d last) :
    d.link.clock.nanos + n * interval.nanos ≤ last.link.clock.nanos := by
  induction h with
  | none d => rw [Nat.zero_mul, Nat.add_zero]
  | @again n d next last status hstatus _ _ _ ih =>
    have hanswer : d.link.clock.nanos ≤ next.link.clock.nanos := later_of_txStatus hstatus
    have hturns : next.link.clock.nanos + interval.nanos + n * interval.nanos ≤
        last.link.clock.nanos := ih
    rw [Nat.succ_mul]
    omega

/-- A turn that follows another one begins a pause after the limit at the latest. -/
theorem clock_lt (h : Polled interval limit start n d last) (hn : n ≠ 0) :
    last.link.clock - start < limit + interval := by
  induction h with
  | none => exact absurd rfl hn
  | @again n d next last status _ _ hwithin hlater ih =>
    rcases Nat.eq_zero_or_pos n with rfl | hpos
    · cases hlater
      have hwithin : next.link.clock.nanos - start.nanos < limit.nanos := hwithin
      show next.link.clock.nanos + interval.nanos - start.nanos < limit.nanos + interval.nanos
      omega
    · exact ih (Nat.ne_of_gt hpos)

/-- With pauses between them, there are no more turns before the last one than fit into the
limit. -/
theorem count_le (h : Polled interval limit d.link.clock n d last) (hpos : 0 < interval.nanos) :
    n ≤ limit.nanos ⌈/⌉ interval.nanos := by
  match n, h with
  | 0, _ => exact Nat.zero_le _
  | n + 1, h =>
    refine Nat.lt_of_not_le fun hle ↦ ?_
    -- the pauses but the last one would reach the limit
    have hreach : limit.nanos ≤ interval.nanos * n := (ceilDiv_le_iff_le_mul hpos).1 hle
    have hclock := h.clock_ge
    have hlt : last.link.clock.nanos - d.link.clock.nanos < limit.nanos + interval.nanos :=
      h.clock_lt (Nat.succ_ne_zero n)
    rw [Nat.succ_mul, Nat.mul_comm] at hclock
    omega

end Polled

/-- What the last turn ends with, and the dialogue afterwards. -/
inductive LastTurn (limit start : Duration) (last : Dialogue) :
    Except Error Controller.Answer × Dialogue → Prop
  | failed {e : Error} {next : Dialogue} :
    txStatus last = .error e next → LastTurn limit start last (.error e, next)
  | refused {status : TxStatus} {next : Dialogue} :
    txStatus last = .ok status next → status ∈ [.badParameter, .failedToSend, .timedOut] →
      LastTurn limit start last (.error (.txFailed status),
        { next with link := next.link.note (.transmissionFailed status) })
  | ended {status : TxStatus} {next : Dialogue} :
    txStatus last = .ok status next → status ∈ [.idle, .done] →
      LastTurn limit start last (.ok (.txStatus status), next)
  | late {status : TxStatus} {next : Dialogue} :
    txStatus last = .ok status next → status.UnderWay → limit ≤ next.link.clock - start →
      LastTurn limit start last (.error (.txPollTimeout limit), next)

/-- Asking for the state sends one request. -/
theorem sends_txStatus : Sends [.getTxStatus] txStatus :=
  (sends_ask _ _).then_silent fun _ ↦ .pure _

/-- The last turn writes its request, or a part of it when the exchange fails. -/
theorem LastTurn.sentPart {outcome : Except Error Controller.Answer × Dialogue}
    (h : LastTurn limit start last outcome) : SentPart [.getTxStatus] last outcome.2 := by
  cases h with
  | failed hstatus => exact sends_txStatus.of_error hstatus
  | refused hstatus =>
    exact (sends_txStatus.of_ok hstatus).trans_part (sentPart_nil [] ((Moved.refl _).note _))
  | ended hstatus | late hstatus =>
    exact (sends_txStatus.of_ok hstatus).trans_part (sentPart_nil [] (.refl _))

/-- A wait for a transmission is some turns with pauses, and one more that ends it. By induction on
what is pending, as every answer uses up some of it. -/
theorem exists_polled (interval limit start : Duration) (d : Dialogue) :
    ∃ n last outcome, Polled interval limit start n d last ∧ LastTurn limit start last outcome ∧
      ((∃ status next, pollTx interval limit start d = .ok status next ∧
          outcome = (.ok (.txStatus status), next)) ∨
        ∃ e next, pollTx interval limit start d = .error e next ∧ outcome = (.error e, next)) := by
  induction hbound : d.link.pending using Nat.strongRecOn generalizing d with
  | ind bound ih =>
    rcases hstatus : txStatus d with ⟨status, next⟩ | ⟨e, next⟩
    · have hless := pending_lt_of_txStatus hstatus
      have hpoll : pollTx interval limit start d = _ := pollTx_of_txStatus hstatus
      by_cases herror : status.isError
      · rw [if_pos herror] at hpoll
        exact ⟨0, d, _, .none d, .refused hstatus (TxStatus.isError_iff.1 herror),
          .inr ⟨_, _, hpoll, rfl⟩⟩
      rw [if_neg herror] at hpoll
      by_cases hterminal : status.isTerminal
      · rw [if_pos hterminal] at hpoll
        exact ⟨0, d, _, .none d, .ended hstatus (TxStatus.mem_of_isTerminal hterminal herror),
          .inl ⟨_, _, hpoll, rfl⟩⟩
      rw [if_neg hterminal] at hpoll
      have hunderWay := TxStatus.underWay_iff.2 (Bool.eq_false_of_not_eq_true hterminal)
      by_cases hlate : limit ≤ next.link.clock - start
      · rw [if_pos hlate] at hpoll
        exact ⟨0, d, _, .none d, .late hstatus hunderWay hlate, .inr ⟨_, _, hpoll, rfl⟩⟩
      rw [if_neg hlate, if_pos hless] at hpoll
      have hpending : (next.link.pass interval).pending < bound := hbound ▸ hless
      obtain ⟨n, last, outcome, hpolled, hend⟩ :=
        ih _ hpending { next with link := next.link.pass interval } rfl
      rw [← hpoll] at hend
      exact ⟨n + 1, last, outcome, .again hstatus hunderWay (Nat.lt_of_not_le hlate) hpolled, hend⟩
    · exact ⟨0, d, _, .none d, .failed hstatus, .inr ⟨e, next, by rw [pollTx, hstatus], rfl⟩⟩

end Turns

end DialogueM

namespace Controller

open DialogueM

/-! ### Neither early nor without end -/

/-- A wait for a transmission is over with the first turn that ends it, and its outcome is that of
this turn: the error of an exchange, a failed transmission, one that is over, or one that is under
way when the limit has passed. With pauses between the turns, there is at most one turn more than
pauses fit into the limit, and whatever the pauses, no turn but the first one begins later than a
pause after the limit. -/
theorem awaitTx_polls (interval limit : Duration) (d : Dialogue) :
    ∃ n last, Polled interval limit d.link.clock n d last ∧
      LastTurn limit d.link.clock last (step (.awaitTx interval limit) d) ∧
      SentPart (List.replicate (n + 1) .getTxStatus) d (step (.awaitTx interval limit) d).2 ∧
      (0 < interval.nanos → n + 1 ≤ limit.nanos ⌈/⌉ interval.nanos + 1) ∧
      ∀ m turn, Polled interval limit d.link.clock m d turn → m ≠ 0 →
        turn.link.clock - d.link.clock < limit + interval := by
  obtain ⟨n, last, outcome, hpolled, hend, hrun⟩ := exists_polled interval limit d.link.clock d
  have hstep : step (.awaitTx interval limit) d = outcome := by
    rcases hrun with ⟨status, next, hpoll, rfl⟩ | ⟨e, next, hpoll, rfl⟩
    · exact step_of_ok (map_of_ok Answer.txStatus hpoll)
    · exact step_of_error (map_of_error Answer.txStatus hpoll)
  rw [hstep]
  refine ⟨n, last, hpolled, hend, ?_, fun hpos ↦ Nat.succ_le_succ (hpolled.count_le hpos),
    fun m turn hturn hm ↦ hturn.clock_lt hm⟩
  rw [List.replicate_succ']
  exact hpolled.sent.trans_part hend.sentPart

/-- A device that is sending when it is asked first, and then has sent. -/
def sendingThenDone : Dialogue where
  controller := {}
  link := { incoming := [0, 0, 1, 0x46, 2, 0, 0, 1, 0x46, 3].map .byte }

/-- A limit shorter than a pause leaves time for one turn more, in which the packet was sent. -/
theorem awaitTx_polls_sendingThenDone :
    ∃ last next, Polled ⟨5⟩ ⟨3⟩ ⟨0⟩ 1 sendingThenDone last ∧
      LastTurn ⟨3⟩ ⟨0⟩ last (.ok (.txStatus .done), next) ∧
      step (.awaitTx ⟨5⟩ ⟨3⟩) sendingThenDone = (.ok (.txStatus .done), next) := by
  obtain ⟨n, last, hpolled, hlast, -, hcount, -⟩ := awaitTx_polls ⟨5⟩ ⟨3⟩ sendingThenDone
  have hdone : step (.awaitTx ⟨5⟩ ⟨3⟩) sendingThenDone =
      (.ok (.txStatus .done), (step (.awaitTx ⟨5⟩ ⟨3⟩) sendingThenDone).2) :=
    Prod.ext (by decide +kernel) rfl
  rw [hdone] at hlast
  -- the first turn is not the last one, as it tells that the device is sending
  have hne : n ≠ 0 := by
    rintro rfl
    cases hpolled
    have hsending : (step .txStatus sendingThenDone).1 = .ok (.txStatus .onAir) := by
      decide +kernel
    cases hlast with
    | ended hstatus _ =>
      have hsent : step .txStatus sendingThenDone = _ :=
        step_of_ok (map_of_ok Answer.txStatus hstatus)
      rw [hsent] at hsending
      cases hsending
  have hturns : 3 ⌈/⌉ 5 + 1 = 2 := by decide
  have hle : n + 1 ≤ 2 := hturns ▸ hcount (by decide)
  obtain rfl : n = 1 := by omega
  exact ⟨last, _, hpolled, hlast, hdone⟩

/-- A limit that is over when the first answer comes leaves time for no other turn. -/
example : (step (.awaitTx ⟨5⟩ ⟨0⟩) sendingThenDone).1 = .error (.txPollTimeout ⟨0⟩) := by
  decide +kernel

end Controller

end LoraConcentrator
