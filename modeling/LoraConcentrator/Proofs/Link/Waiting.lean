import LoraConcentrator.Proofs.Link.Kept
import Mathlib.Algebra.Order.Floor.Div

/-!
# Waiting for a reply

The device takes its time to answer. A read that times out before the first byte of a reply is made
again while less than the time-out of the reply has passed since the wait began
(`LinkM.Waited`), and only such a read is. How long that goes on is a matter of the clock alone, so
a wait is bounded by what its reads take: were each of them to take some least time, then no more of
them are made than such times fit into the time-out.

Inside a frame no read is made again. Main statement: a reply is given up neither early nor late
(`LinkM.receiveFrame_waits`).
-/

namespace LoraConcentrator

open Program

/-! ### Reads that time out -/

namespace Arrival

/-- Whether a read that meets an arrival times out. -/
def isTimeOut : Arrival → Bool
  | failure f _ => f.kind = .timedOut
  | byte _ | endOfFile => false

/-- The time that reads take to meet arrivals one after the other. -/
def span : List Arrival → Duration
  | [] => ⟨0⟩
  | a :: arrivals => a.duration + span arrivals

/-- A wait outlasts arrivals: all of them are reads that time out, and the last one is over before
the wait is. -/
def Outlasted (timeout : Duration) (arrivals : List Arrival) : Prop :=
  (∀ a ∈ arrivals, a.isTimeOut) ∧ (arrivals ≠ [] → span arrivals < timeout)

instance (timeout : Duration) (arrivals : List Arrival) : Decidable (Outlasted timeout arrivals) :=
  inferInstanceAs (Decidable (_ ∧ _))

/-- One more arrival takes its own time. -/
theorem nanos_span_concat (arrivals : List Arrival) (a : Arrival) :
    (span (arrivals ++ [a])).nanos = (span arrivals).nanos + a.duration.nanos := by
  induction arrivals with
  | nil => exact Nat.add_comm _ _
  | cons b arrivals ih =>
    show b.duration.nanos + (span (arrivals ++ [a])).nanos =
      b.duration.nanos + (span arrivals).nanos + a.duration.nanos
    rw [ih, Nat.add_assoc]

/-- What a wait does not outlast any more is no time-out, or ends when the wait is over. -/
theorem Outlasted.le_of_concat {timeout : Duration} {arrivals : List Arrival} {a : Arrival}
    (h : Outlasted timeout arrivals) (ha : ¬ Outlasted timeout (arrivals ++ [a]))
    (hout : a.isTimeOut) : timeout.nanos ≤ (span arrivals).nanos + a.duration.nanos := by
  refine Nat.le_of_not_lt fun hearly ↦ ha ⟨fun b hb ↦ ?_, fun _ ↦ ?_⟩
  · rcases List.mem_append.1 hb with hb | hb
    · exact h.1 b hb
    · obtain rfl := List.mem_singleton.1 hb
      exact hout
  · show (span (arrivals ++ [a])).nanos < timeout.nanos
    rwa [nanos_span_concat]

end Arrival

namespace Link

variable {link link' next : Link} {least : Duration}

/-- Every read of a link that times out takes some least time. -/
def TimeOutsTake (least : Duration) (link : Link) : Prop :=
  ∀ a ∈ link.idle.arrival :: link.incoming, a.isTimeOut → least ≤ a.duration

instance (least : Duration) (link : Link) : Decidable (TimeOutsTake least link) :=
  inferInstanceAs (Decidable (∀ a ∈ link.idle.arrival :: link.incoming, _))

/-- What is still to come was to come before. -/
theorem TimeOutsTake.onward (h : TimeOutsTake least link) (hon : Onward link link') :
    TimeOutsTake least link' := by
  intro a ha
  refine h a ?_
  rw [hon.idle_eq] at ha
  rcases List.mem_cons.1 ha with rfl | ha
  · exact List.mem_cons_self
  · exact List.mem_cons_of_mem _ (hon.suffix.subset ha)

/-- A read that fails met that failure. -/
theorem exists_of_read_error {room : Nat} {failure : IoFailure}
    (h : link.read room = (.error failure, next)) :
    ∃ after, link.ahead = .failure failure after ∧ next = link.stopped := by
  rcases ha : link.ahead.byte? with - | b
  · rw [link.read_of_ahead ha room, Prod.mk.injEq] at h
    obtain ⟨houtcome, rfl⟩ := h
    rcases hahead : link.ahead with b | ⟨f, after⟩ | -
    · rw [hahead] at ha
      cases ha
    · rw [hahead] at houtcome
      cases houtcome
      exact ⟨after, rfl, rfl⟩
    · rw [hahead] at houtcome
      cases houtcome
  · obtain ⟨rest, hin⟩ := link.exists_of_byte?_ahead ha
    simp only [read, hin, Prod.mk.injEq, reduceCtorEq, false_and] at h

/-- What a read meets has arrived, or is what an idle line says. -/
theorem ahead_mem (link : Link) : link.ahead ∈ link.idle.arrival :: link.incoming := by
  rw [ahead]
  cases link.incoming with
  | nil => exact List.mem_singleton.2 rfl
  | cons a rest => exact List.mem_cons_of_mem _ List.mem_cons_self

/-- A read that times out takes at least the time that all of them do. -/
theorem TimeOutsTake.clock_le {room : Nat} {failure : IoFailure} (h : TimeOutsTake least link)
    (hread : link.read room = (.error failure, next)) (hk : failure.kind = .timedOut) :
    link.clock.nanos + least.nanos ≤ next.clock.nanos := by
  obtain ⟨after, ha, rfl⟩ := exists_of_read_error hread
  have htakes := h _ link.ahead_mem (by rw [ha]; exact decide_eq_true hk)
  exact Nat.add_le_add_left htakes _

end Link

namespace LinkM

open Link

/-! ### The reads of a wait -/

/-- From one link to the other, `n` reads of a wait that began at `start` time out before it is
over, and each is followed by another one. -/
inductive Waited (start timeout : Duration) : (n : Nat) → Link → Link → Prop
  | none (link : Link) : Waited start timeout 0 link link
  | again {n : Nat} {link next last : Link} {failure : IoFailure} :
    link.read 1 = (.error failure, next) → failure.kind = .timedOut →
      next.clock - start < timeout →
        Waited start timeout n (next.note (.stillWaiting (next.clock - start))) last →
          Waited start timeout (n + 1) link last

namespace Waited

variable {start timeout least : Duration} {n : Nat} {link last : Link}

/-- A wait moves the link onward. -/
theorem onward (h : Waited start timeout n link last) : Onward link last := by
  induction h with
  | none link => exact Std.Refl.refl link
  | again hread _ _ _ ih =>
    exact IsTrans.trans _ _ _ (keptByReading_onward.of_read_note hread _) ih

theorem reads_eq (h : Waited start timeout n link last) : last.reads = link.reads + n := by
  induction h with
  | none link => rfl
  | @again n link next last failure hread _ _ _ ih =>
    obtain ⟨after, -, rfl⟩ := exists_of_read_error hread
    have hlater : last.reads = link.reads + 1 + n := ih
    omega

/-- The last of the reads was over before the wait was. -/
theorem clock_lt (h : Waited start timeout n link last) (hn : n ≠ 0) :
    last.clock - start < timeout := by
  induction h with
  | none => exact absurd rfl hn
  | @again n link next last failure hread hk hlt hlater ih =>
    rcases Nat.eq_zero_or_pos n with rfl | hpos
    · cases hlater
      exact hlt
    · exact ih (Nat.ne_of_gt hpos)

/-- The clock went on with every read. -/
theorem clock_ge (h : Waited start timeout n link last) (hleast : TimeOutsTake least link) :
    link.clock.nanos + n * least.nanos ≤ last.clock.nanos := by
  induction h with
  | none link => rw [Nat.zero_mul, Nat.add_zero]
  | @again n link next last failure hread hk _ _ ih =>
    have hfirst := hleast.clock_le hread hk
    have hlater : next.clock.nanos + n * least.nanos ≤ last.clock.nanos :=
      ih (hleast.onward (keptByReading_onward.of_read_note hread _))
    rw [Nat.succ_mul]
    omega

/-- With one more read, a wait has no more of them than fit into its time. -/
theorem count_le (h : Waited link.clock timeout n link last) (hpos : 0 < least.nanos)
    (hleast : TimeOutsTake least link) :
    n + 1 ≤ max 1 (timeout.nanos ⌈/⌉ least.nanos) := by
  rcases Nat.eq_zero_or_pos n with rfl | hn
  · exact Nat.le_max_left _ _
  · refine Nat.le_trans ?_ (Nat.le_max_right _ _)
    refine Nat.lt_of_not_le fun hle ↦ ?_
    -- the time of the reads alone would reach the time-out
    have hreach : timeout.nanos ≤ least.nanos * n := (ceilDiv_le_iff_le_mul hpos).1 hle
    have hclock := h.clock_ge hleast
    have hlt : last.clock.nanos - link.clock.nanos < timeout.nanos :=
      h.clock_lt (Nat.ne_of_gt hn)
    rw [Nat.mul_comm] at hclock
    omega

/-- A last read exceeds the time of a wait by no more than it takes. -/
theorem clock_sub_lt {link' : Link} (h : Waited link.clock timeout n link last)
    (hpos : 0 < timeout.nanos) (hlater : last.clock ≤ link'.clock) :
    link'.clock - link.clock < timeout + (link'.clock - last.clock) := by
  have hstart : link.clock.nanos ≤ last.clock.nanos := h.onward.clock_le
  have hlater : last.clock.nanos ≤ link'.clock.nanos := hlater
  have hlt : last.clock.nanos - link.clock.nanos < timeout.nanos := by
    rcases Nat.eq_zero_or_pos n with rfl | hn
    · cases h
      rwa [Nat.sub_self]
    · exact h.clock_lt (Nat.ne_of_gt hn)
  show link'.clock.nanos - link.clock.nanos <
    timeout.nanos + (link'.clock.nanos - last.clock.nanos)
  omega

end Waited

section Outcomes

variable {start timeout : Duration} {link link' : Link}

/-- The first byte of a reply is served by the read that ends the wait. -/
theorem awaitByte_ok_waited {b : UInt8} (h : awaitByte start timeout link = .ok b link') :
    ∃ n last bs, Waited start timeout n link last ∧ last.read 1 = (.ok (b :: bs), link') := by
  fun_induction awaitByte start timeout link with
  | case1 link b' bs link₁ hread =>
    cases h
    exact ⟨0, link, bs, .none link, hread⟩
  | case3 link failure link₁ hread elapsed hwaits _ ih =>
    obtain ⟨n, last, bs, hwaited, hlast⟩ := ih h
    exact ⟨n + 1, last, bs, .again hread hwaits.1 hwaits.2 hwaited, hlast⟩
  | case2 | case4 | case5 => cases h

/-- A wait that times out is over. -/
theorem awaitByte_timedOut {failure : IoFailure} (hk : failure.kind = .timedOut)
    (h : awaitByte start timeout link = .error (.io failure) link') :
    ∃ n last, Waited start timeout n link last ∧ last.read 1 = (.error failure, link') ∧
      timeout ≤ link'.clock - start := by
  fun_induction awaitByte start timeout link with
  | case1 | case2 | case4 => cases h
  | case3 link failure' link₁ hread elapsed hwaits _ ih =>
    obtain ⟨n, last, hwaited, hlast⟩ := ih h
    exact ⟨n + 1, last, .again hread hwaits.1 hwaits.2 hwaited, hlast⟩
  | case5 link failure' link₁ hread elapsed hover _ =>
    cases h
    have htimeout : timeout ≤ link'.clock - start :=
      Nat.le_of_not_lt fun hearly ↦ hover ⟨hk, hearly⟩
    exact ⟨0, link, .none link, hread, htimeout⟩

end Outcomes

/-! ### Waiting for what has arrived -/

section Arrived

variable {start timeout : Duration} {link : Link} {waits rest : List Arrival} {e : Error}

/-- A read that times out early is made again. -/
theorem awaitByte_of_timeOut {a : Arrival} (hin : link.incoming = a :: rest) (hout : a.isTimeOut)
    (hearly : link.clock + a.duration - start < timeout) :
    ∃ next, awaitByte start timeout link = awaitByte start timeout next ∧ next.incoming = rest ∧
      next.idle = link.idle ∧ next.clock = link.clock + a.duration := by
  have ha : link.ahead = a := congrArg (List.headD · link.idle.arrival) hin
  have hclock : link.stopped.clock = link.clock + a.duration :=
    congrArg (fun b ↦ link.clock + Arrival.duration b) ha
  have hrest : link.stopped.incoming = rest := congrArg List.tail hin
  match a, hout with
  | .failure failure after, hout =>
    have hread := link.read_of_ahead (by rw [ha]; rfl) 1
    rw [ha] at hread
    refine ⟨link.stopped.note (.stillWaiting (link.stopped.clock - start)), ?_, hrest, rfl, hclock⟩
    rw [← hclock] at hearly
    rw [awaitByte_of_read hread]
    simp only [Arrival.outcome]
    rw [if_pos ⟨of_decide_eq_true hout, hearly⟩]

/-- Reads that time out before the wait is over do not end it. By induction on the reads. -/
theorem awaitByte_of_waits (hin : link.incoming = waits ++ rest) (hout : ∀ a ∈ waits, a.isTimeOut)
    (hearly : waits ≠ [] → link.clock + Arrival.span waits - start < timeout) :
    ∃ next, awaitByte start timeout link = awaitByte start timeout next ∧ next.incoming = rest ∧
      next.idle = link.idle ∧ next.clock = link.clock + Arrival.span waits := by
  induction waits generalizing link with
  | nil => exact ⟨link, rfl, hin, rfl, rfl⟩
  | cons a waits ih =>
    have hspan : link.clock.nanos + (a.duration.nanos + (Arrival.span waits).nanos) - start.nanos <
        timeout.nanos := hearly (List.cons_ne_nil _ _)
    have hfirst : link.clock + a.duration - start < timeout := by
      show link.clock.nanos + a.duration.nanos - start.nanos < timeout.nanos
      omega
    obtain ⟨link₁, heq, hin₁, hidle₁, hclock₁⟩ :=
      awaitByte_of_timeOut hin (hout a List.mem_cons_self) hfirst
    have hsum : link₁.clock + Arrival.span waits = link.clock + Arrival.span (a :: waits) := by
      rw [hclock₁]
      exact congrArg Duration.mk (Nat.add_assoc _ _ _)
    obtain ⟨next, hnext, hrest, hidle, hclock⟩ := ih hin₁
      (fun b hb ↦ hout b (List.mem_cons_of_mem a hb)) fun _ ↦ hsum ▸ hearly (List.cons_ne_nil _ _)
    exact ⟨next, heq.trans hnext, hrest, hidle.trans hidle₁, hclock.trans hsum⟩

/-- What a wait meets that is no early time-out ends it. -/
theorem awaitByte_of_stop (hstop : link.ahead.error? = some e)
    (hover : link.ahead.isTimeOut → timeout ≤ link.clock + link.ahead.duration - start) :
    ∃ link', awaitByte start timeout link = .error e link' ∧
      link'.incoming = link.incoming.tail ∧ link'.clock = link.clock + link.ahead.duration := by
  have hread := link.read_of_ahead (Arrival.byte?_eq_none_iff.2 ⟨e, hstop⟩) 1
  have hclock : link.stopped.clock = link.clock + link.ahead.duration := rfl
  rw [awaitByte_of_read hread]
  rcases ha : link.ahead with b | ⟨failure, after⟩ | -
  · rw [ha] at hstop
    cases hstop
  · rw [ha] at hstop hover hclock
    obtain rfl := Option.some.inj hstop
    have hlate : ¬ (failure.kind = .timedOut ∧ link.stopped.clock - start < timeout) := by
      rintro ⟨hk, hearly⟩
      rw [hclock] at hearly
      exact absurd hearly (Nat.not_lt_of_le (hover (decide_eq_true hk)))
    simp only [Arrival.outcome, Arrival.errorOf]
    rw [if_neg hlate]
    by_cases hk : failure.kind = .interrupted
    · rw [if_pos hk, if_pos hk]
      exact ⟨_, rfl, rfl, hclock⟩
    · rw [if_neg hk, if_neg hk]
      exact ⟨_, rfl, rfl, hclock⟩
  · rw [ha] at hstop
    obtain rfl := Option.some.inj hstop
    exact ⟨_, rfl, rfl, ha ▸ hclock⟩

/-- On a silent line a wait times out. By induction on what bounds the wait. -/
theorem awaitByte_of_silent {wait : Lapse} (hin : link.incoming = [])
    (hidle : link.idle = .silent wait) :
    ∃ link', awaitByte start timeout link = .error (.io timedOut) link' ∧ link'.incoming = [] := by
  have hread : ∀ link : Link, link.incoming = [] → link.idle = .silent wait →
      link.read 1 = (.error timedOut, link.stopped) ∧ link.stopped.incoming = [] := by
    intro link hin hidle
    have ha : link.ahead = .failure timedOut wait.toDuration := by
      rw [ahead, hin, hidle]
      rfl
    have hread := link.read_of_ahead (by rw [ha]; rfl) 1
    rw [ha] at hread
    exact ⟨hread, congrArg List.tail hin⟩
  fun_induction awaitByte start timeout link with
  | case1 link b bs link₁ hr | case2 link link₁ hr =>
    rw [(hread link hin hidle).1] at hr
    cases hr
  | case3 link failure link₁ hr elapsed _ _ ih =>
    obtain ⟨hr', hin'⟩ := hread link hin hidle
    rw [hr'] at hr
    cases hr
    exact ih hin' hidle
  | case4 link failure link₁ hr _ _ hi =>
    rw [(hread link hin hidle).1] at hr
    cases hr
    cases hi
  | case5 link failure link₁ hr =>
    obtain ⟨hr', hin'⟩ := hread link hin hidle
    rw [hr'] at hr
    cases hr
    exact ⟨_, rfl, hin'⟩

/-- Where nothing arrives, a wait ends with what the line then does. -/
theorem awaitByte_of_idle (hin : link.incoming = []) (hstop : link.idle.arrival.error? = some e) :
    ∃ link', awaitByte start timeout link = .error e link' ∧ link'.incoming = [] := by
  cases hidle : link.idle with
  | silent wait =>
    rw [hidle] at hstop
    obtain rfl := Option.some.inj hstop
    exact awaitByte_of_silent hin hidle
  | closed | hungUp =>
    have ha : link.ahead = link.idle.arrival := by rw [ahead, hin, List.headD_nil]
    rw [← ha] at hstop
    obtain ⟨link', hwait, hin', -⟩ := awaitByte_of_stop hstop fun hout ↦ by
      rw [ha, hidle] at hout
      cases hout
    exact ⟨link', hwait, hin'.trans (congrArg List.tail hin)⟩

end Arrived

/-! ### Frames that are waited for -/

section Frames

variable {capacity : Nat} {timeout : Duration} {link : Link} {waits rest stop : List Arrival}
  {bs : Bytes} {e : Error}

/-- Reads that time out in time leave the wait as it was. -/
theorem receiveFrame_of_outlasted (hcapacity : Header.byteCount ≤ capacity)
    (hin : link.incoming = waits ++ rest) (hwaits : Arrival.Outlasted timeout waits) :
    ∃ next, receiveFrame capacity timeout link =
      (awaitByte link.clock timeout >>= receiveAfter capacity) next ∧ next.incoming = rest ∧
        next.idle = link.idle ∧ next.clock = link.clock + Arrival.span waits := by
  have hearly : waits ≠ [] → link.clock + Arrival.span waits - link.clock < timeout := by
    intro hne
    show link.clock.nanos + (Arrival.span waits).nanos - link.clock.nanos < timeout.nanos
    rw [Nat.add_sub_cancel_left]
    exact hwaits.2 hne
  obtain ⟨next, hwait, hnext⟩ := awaitByte_of_waits hin hwaits.1 hearly
  refine ⟨next, ?_, hnext⟩
  rw [receiveFrame_eq_bind hcapacity]
  show EStateM.bind _ _ link = EStateM.bind _ _ next
  rw [EStateM.bind, EStateM.bind, hwait]

/-- A first byte that comes in time is accepted, and its frame is read on. -/
theorem receiveFrame_of_byte {b : UInt8} (hcapacity : Header.byteCount ≤ capacity)
    (hin : link.incoming = waits ++ .byte b :: rest) (hwaits : Arrival.Outlasted timeout waits) :
    ∃ next, receiveFrame capacity timeout link = receiveAfter capacity b next ∧
      next.incoming = rest ∧ next.idle = link.idle ∧
        next.clock = link.clock + Arrival.span waits := by
  obtain ⟨link₁, hframe, hin₁, hidle, hclock⟩ := receiveFrame_of_outlasted hcapacity hin hwaits
  refine ⟨{ link₁ with reads := link₁.reads + 1, incoming := rest }, ?_, rfl, hidle, hclock⟩
  rw [hframe, bind_of_ok (awaitByte_of_incoming link.clock timeout hin₁)]

/-- Once its first byte was read, a frame fails with the first read that meets no byte. -/
theorem receiveFrame_of_cut {b : UInt8} (hcapacity : Header.byteCount ≤ capacity)
    (hin : link.incoming = waits ++ .byte b :: (bs.map .byte ++ stop))
    (hwaits : Arrival.Outlasted timeout waits)
    (hcut : (b :: bs).length < Frame.extent capacity (b :: bs))
    (hstop : (stop.headD link.idle.arrival).error? = some e) :
    ∃ link', receiveFrame capacity timeout link = .error e link' ∧ link'.incoming = stop.tail ∧
      link'.clock =
        link.clock + Arrival.span waits + (stop.headD link.idle.arrival).duration := by
  obtain ⟨next, hframe, hrest, hidle, hclock⟩ := receiveFrame_of_byte hcapacity hin hwaits
  rw [← hidle] at hstop ⊢
  rw [hframe, ← hclock]
  exact receiveAfter_of_stop hrest hcut hstop

/-- Before the first byte, whatever is no early time-out is the end of the wait. -/
theorem receiveFrame_of_end {a : Arrival} (hcapacity : Header.byteCount ≤ capacity)
    (hin : link.incoming = waits ++ a :: rest) (hwaits : Arrival.Outlasted timeout waits)
    (hend : ¬ Arrival.Outlasted timeout (waits ++ [a])) (ha : a.error? = some e) :
    ∃ link', receiveFrame capacity timeout link = .error e link' ∧ link'.incoming = rest ∧
      link'.clock = link.clock + Arrival.span waits + a.duration := by
  obtain ⟨next, hframe, hin', -, hclock⟩ := receiveFrame_of_outlasted hcapacity hin hwaits
  have hahead : next.ahead = a := congrArg (List.headD · next.idle.arrival) hin'
  rw [← hahead] at ha hend ⊢
  obtain ⟨link', hwait, htail, hclock'⟩ := awaitByte_of_stop ha fun hout ↦ by
    have hover := hwaits.le_of_concat hend hout
    show timeout.nanos ≤ next.clock.nanos + next.ahead.duration.nanos - link.clock.nanos
    rw [hclock, Duration.nanos_add]
    omega
  refine ⟨link', hframe.trans (bind_of_error hwait), ?_, hclock ▸ hclock'⟩
  rw [htail, hin', List.tail_cons]

/-- A frame of which nothing arrives fails with what the line then does. -/
theorem receiveFrame_of_idle (hcapacity : Header.byteCount ≤ capacity)
    (hwaits : Arrival.Outlasted timeout link.incoming)
    (hidle : link.idle.arrival.error? = some e) :
    ∃ link', receiveFrame capacity timeout link = .error e link' ∧ link'.incoming = [] := by
  obtain ⟨next, hframe, hin, hidle', -⟩ :=
    receiveFrame_of_outlasted hcapacity (List.append_nil _).symm hwaits
  rw [← hidle'] at hidle
  obtain ⟨link', hwait, hin'⟩ := awaitByte_of_idle hin hidle
  exact ⟨link', hframe.trans (bind_of_error hwait), hin'⟩

end Frames

/-- A frame that fails after its first byte was read took that byte. -/
theorem bytes_lt_of_awaitByte_ok {capacity : Nat} {start timeout : Duration} {b : UInt8} {e : Error}
    {link link₁ link' : Link} (hwait : awaitByte start timeout link = .ok b link₁)
    (hrest : receiveAfter capacity b link₁ = .error e link') :
    (Arrival.bytes link'.incoming).length < (Arrival.bytes link.incoming).length := by
  obtain ⟨n, last, bs, hwaited, hread⟩ := awaitByte_ok_waited hwait
  have hin := incoming_of_read_ok Nat.one_pos hread
  have hafter : Onward link₁ link' :=
    ((keptByReading_onward.keeps_receiveAfter capacity b).of_error hrest).resolve_left id
  have hlast : (Arrival.bytes link'.incoming).length ≤ (Arrival.bytes link₁.incoming).length :=
    (hafter.suffix.filterMap Arrival.byte?).length_le
  have hfirst : (Arrival.bytes last.incoming).length ≤ (Arrival.bytes link.incoming).length :=
    (hwaited.onward.suffix.filterMap Arrival.byte?).length_le
  rw [hin, Arrival.bytes_append, Arrival.bytes_map_byte, List.length_append,
    List.length_cons] at hfirst
  omega

/-! ### Neither early nor late -/

/-- A reply is given up neither early nor late.

A wait that times out before any byte has come made one read after the other, each of them early but
the last one, so no less than the time-out has passed, no more of the reads were made than fit into
it, and it was exceeded by no more than the last of them. A first byte that comes in time is
accepted. From then on the first read that fails is the end of the frame; and one that is
interrupted is the end also of the wait. -/
theorem receiveFrame_waits (capacity : Nat) (timeout : Duration) (link : Link) :
    (∀ failure link', failure.kind = .timedOut →
      receiveFrame capacity timeout link = .error (.io failure) link' →
        Arrival.bytes link'.incoming = Arrival.bytes link.incoming →
          ∃ n last, Waited link.clock timeout n link last ∧ last.read 1 = (.error failure, link') ∧
            link'.reads = link.reads + (n + 1) ∧
              timeout ≤ link'.clock - link.clock ∧
              (∀ least : Duration, 0 < least.nanos → TimeOutsTake least link →
                n + 1 ≤ max 1 (timeout.nanos ⌈/⌉ least.nanos)) ∧
              (0 < timeout.nanos →
                link'.clock - link.clock < timeout + (link'.clock - last.clock))) ∧
    (Header.byteCount ≤ capacity → ∀ waits, Arrival.Outlasted timeout waits →
      (∀ b rest, link.incoming = waits ++ .byte b :: rest →
        ∃ next, receiveFrame capacity timeout link = receiveAfter capacity b next ∧
          next.incoming = rest ∧ next.idle = link.idle ∧
            next.clock = link.clock + Arrival.span waits) ∧
      (∀ b bs stop failure after, link.incoming = waits ++ .byte b :: (bs.map .byte ++ stop) →
        (b :: bs).length < Frame.extent capacity (b :: bs) →
          stop.headD link.idle.arrival = .failure failure after →
            ∃ link', receiveFrame capacity timeout link =
              .error (Arrival.errorOf failure) link' ∧ link'.incoming = stop.tail ∧
                link'.clock = link.clock + Arrival.span waits + after) ∧
      ∀ failure after rest, link.incoming = waits ++ .failure failure after :: rest →
        failure.kind = .interrupted →
          ∃ link', receiveFrame capacity timeout link = .error .interrupted link' ∧
            link'.incoming = rest ∧ link'.clock = link.clock + Arrival.span waits + after) := by
  refine ⟨fun failure link' hk h hbytes ↦ ?_, fun hcapacity waits hwaits ↦ ⟨?_, ?_, ?_⟩⟩
  · rcases Nat.lt_or_ge capacity Header.byteCount with hlt | hcapacity
    · rw [receiveFrame_of_lt hlt] at h
      cases h
    rw [receiveFrame_eq_bind hcapacity] at h
    rcases bind_eq_error_iff.1 h with hwait | ⟨b, link₁, hwait, hrest⟩
    · obtain ⟨n, last, hwaited, hread, hover⟩ := awaitByte_timedOut hk hwait
      have hreads : link'.reads = link.reads + (n + 1) := by
        obtain ⟨after, -, rfl⟩ := exists_of_read_error hread
        exact congrArg (· + 1) hwaited.reads_eq
      refine ⟨n, last, hwaited, hread, hreads, hover, fun least ↦ hwaited.count_le, fun hpos ↦ ?_⟩
      have hlate : last.clock ≤ link'.clock := (keptByReading_onward.of_read hread).clock_le
      exact hwaited.clock_sub_lt hpos hlate
    · exact absurd hbytes (fun hbytes ↦ Nat.ne_of_lt (bytes_lt_of_awaitByte_ok hwait hrest)
        (congrArg List.length hbytes))
  · exact fun b rest hin ↦ receiveFrame_of_byte hcapacity hin hwaits
  · intro b bs stop failure after hin hcut hstop
    have hcut := receiveFrame_of_cut hcapacity hin hwaits hcut (congrArg Arrival.error? hstop)
    rwa [hstop] at hcut
  · intro failure after rest hin hk
    have herror : (Arrival.failure failure after).error? = some .interrupted :=
      congrArg some (if_pos hk)
    refine receiveFrame_of_end hcapacity hin hwaits (fun hout ↦ ?_) herror
    have htimeOut : failure.kind = .timedOut :=
      of_decide_eq_true (hout.1 (.failure failure after) List.mem_concat_self)
    exact absurd (hk.symm.trans htimeOut) (by decide)

/-- A device that answers late: two reads of a second each find nothing before its first byte. -/
def lateReply : Link where
  incoming := [.failure timedOut (.ofMillis 1000), .failure timedOut (.ofMillis 1000), .byte 7]

/-- Two seconds are not enough for the late device, and two reads are made of them. -/
theorem receiveFrame_waits_lateReply :
    ∃ n last link', receiveFrame replyCapacity (.ofMillis 2000) lateReply =
        .error (.io timedOut) link' ∧
      Waited lateReply.clock (.ofMillis 2000) n lateReply last ∧ n + 1 ≤ 2 ∧
        Duration.ofMillis 2000 ≤ link'.clock - lateReply.clock := by
  have hin : lateReply.incoming = [.failure timedOut (.ofMillis 1000)] ++
      .failure timedOut (.ofMillis 1000) :: [.byte 7] := rfl
  have hcapacity : Header.byteCount ≤ replyCapacity := by decide
  have hwaits : Arrival.Outlasted (.ofMillis 2000) [.failure timedOut (.ofMillis 1000)] := by decide
  obtain ⟨link', hframe, hin', -⟩ := receiveFrame_of_end hcapacity hin hwaits (by decide) rfl
  obtain ⟨n, last, hwaited, -, -, hover, hcount, -⟩ :=
    (receiveFrame_waits replyCapacity (.ofMillis 2000) lateReply).1 timedOut link' rfl hframe
      (by rw [hin']; rfl)
  have hleast : TimeOutsTake (.ofMillis 1000) lateReply := by decide
  exact ⟨n, last, link', hframe, hwaited, hcount (.ofMillis 1000) (by decide) hleast, hover⟩

end LinkM

end LoraConcentrator
