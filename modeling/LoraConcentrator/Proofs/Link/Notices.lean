import LoraConcentrator.Proofs.Link.Kept
import LoraConcentrator.Proofs.Link.Lockstep

/-!
# What a link remembers

A link remembers what was noticed on it. Two things about that memory are used elsewhere: how a
program adds to the warnings in it, and that nothing depends on it.

What was noticed is never forgotten (`Link.kept_remembers`). As long as writing and reading a frame
goes well nobody is warned (`LinkM.warnings_sendRequest`, `LinkM.warnings_receiveFrame`), and every
program finds the same on links that differ in what they remember only
(`Link.hidden_sameButNotices`).
-/

namespace LoraConcentrator

open Program

namespace Link

/-! ### Warnings -/

/-- The warnings so far, in order. -/
def warnings (link : Link) : List Notice := link.notices.filter (·.severity = .warn)

variable {link link' : Link}

theorem warnings_of_noticed (h : link'.noticed = link.noticed) :
    link'.warnings = link.warnings := by
  rw [warnings, warnings, notices, notices, h]

/-- A notice that warns is the last of the warnings. -/
theorem warnings_note_of_warn {notice : Notice} (h : notice.severity = .warn) (link : Link) :
    (link.note notice).warnings = link.warnings ++ [notice] := by
  have hnotice : [notice].filter (·.severity = .warn) = [notice] :=
    List.filter_cons_of_pos (decide_eq_true h)
  rw [warnings, notices_note, List.filter_append, hnotice, warnings]

/-- What is no warning leaves the warnings as they are. -/
theorem warnings_note_of_ne {notice : Notice} (h : decide (notice.severity = .warn) = false)
    (link : Link) : (link.note notice).warnings = link.warnings := by
  have hnotice : [notice].filter (·.severity = .warn) = [] :=
    List.filter_cons_of_neg (Bool.not_eq_true _ ▸ h)
  rw [warnings, notices_note, List.filter_append, hnotice, List.append_nil, warnings]

/-- Closing the port warns of nothing. -/
theorem warnings_close (link : Link) : link.close.warnings = link.warnings := by
  unfold close
  split
  · exact warnings_note_of_ne rfl link
  · rfl

/-! ### Single reads and writes remember nothing -/

/-- A single read leaves no notice, whatever it finds. -/
theorem noticed_read {room : Nat} {outcome : Except IoFailure Bytes}
    (h : link.read room = (outcome, link')) : link'.noticed = link.noticed := by
  obtain rfl : (link.read room).2 = link' := congrArg Prod.snd h
  unfold read
  rcases link.incoming with - | ⟨b | ⟨failure, after⟩ | -, rest⟩
  · cases link.idle <;> rfl
  all_goals rfl

theorem noticed_write {bs : Bytes} {outcome : Except IoFailure Nat}
    (h : link.write bs = (outcome, link')) : link'.noticed = link.noticed := by
  obtain ⟨accepted, rfl⟩ := exists_of_write h
  rfl

theorem noticed_flush {outcome : Except IoFailure Unit}
    (h : link.flush = (outcome, link')) : link'.noticed = link.noticed := by
  obtain rfl : link.flush.2 = link' := congrArg Prod.snd h
  unfold flush
  split
  · rfl
  · split <;> rfl

/-! ### What was noticed stays -/

/-- What was noticed is remembered. -/
def Remembers (link link' : Link) : Prop := link.noticed <:+ link'.noticed

instance : IsPreorder Link Remembers where
  refl _ := List.suffix_rfl
  trans _ _ _ := List.IsSuffix.trans

theorem remembers_of_noticed (h : link'.noticed = link.noticed) : Remembers link link' :=
  ⟨[], h.symm⟩

/-- No step of a link forgets a notice. -/
theorem kept_remembers : Kept Remembers where
  note link notice := List.suffix_cons notice link.noticed
  read link room :=
    have hread : link.read room = ((link.read room).1, (link.read room).2) := rfl
    remembers_of_noticed (noticed_read hread)
  write link bs :=
    have hwrite : link.write bs = ((link.write bs).1, (link.write bs).2) := rfl
    remembers_of_noticed (noticed_write hwrite)
  flush link :=
    have hflush : link.flush = (link.flush.1, link.flush.2) := rfl
    remembers_of_noticed (noticed_flush hflush)

/-- The new warnings come after the old ones. -/
theorem Remembers.exists_warnings (h : Remembers link link') :
    ∃ new, link'.warnings = link.warnings ++ new := by
  obtain ⟨noticed, hnoticed⟩ := h
  refine ⟨noticed.reverse.filter (·.severity = .warn), ?_⟩
  rw [warnings, warnings, notices, notices, ← hnoticed, List.reverse_append, List.filter_append]

end Link

namespace LinkM

open Link

variable {link link' : Link}

/-! ### Frames that are written and read well -/

/-- Writing everything leaves no notice where it succeeds. -/
theorem noticed_writeAll {bs : Bytes} (h : writeAll bs link = .ok () link') :
    link'.noticed = link.noticed := by
  fun_induction writeAll bs link with
  | case1 =>
    cases h
    rfl
  | case2 => cases h
  | case3 bs link hbs n link₁ hw hless ih => exact (ih h).trans (noticed_write hw)
  | case4 bs link hbs failure link₁ hw hk hless ih => exact (ih h).trans (noticed_write hw)
  | case5 => cases h

theorem noticed_flush_ok (h : flush link = .ok () link') : link'.noticed = link.noticed := by
  unfold flush at h
  split at h
  · rename_i next hf
    cases h
    exact noticed_flush hf
  · cases h

/-- Nobody is warned while a request is written well. -/
theorem warnings_sendRequest {id : UInt8} {request : RequestCode} {payload : Bytes}
    (h : sendRequest id request payload link = .ok () link') : link'.warnings = link.warnings := by
  simp only [sendRequest, bind_eq_ok_iff, ofExcept_eq_ok_iff, note_eq_ok_iff] at h
  obtain ⟨frame, _, ⟨-, rfl⟩, _, _, rfl, _, _, rfl, _, link₁, hwrite, hflush⟩ := h
  rw [warnings_of_noticed (noticed_flush_ok hflush), warnings_of_noticed (noticed_writeAll hwrite),
    warnings_note_of_ne rfl, warnings_note_of_ne rfl]

/-- Waiting for a byte that comes warns of nothing. -/
theorem warnings_awaitByte {start timeout : Duration} {b : UInt8}
    (h : awaitByte start timeout link = .ok b link') : link'.warnings = link.warnings := by
  fun_induction awaitByte start timeout link with
  | case1 link b' tail link₁ hr =>
    cases h
    exact warnings_of_noticed (noticed_read hr)
  | case3 link failure link₁ hr elapsed _ _ ih =>
    rw [ih h, warnings_note_of_ne rfl]
    exact warnings_of_noticed (noticed_read hr)
  | case2 | case4 | case5 => cases h

/-- Reading a part that is there leaves no notice. -/
theorem noticed_readRest {total remaining : Nat} {bs : Bytes}
    (h : readRest total remaining link = .ok bs link') : link'.noticed = link.noticed := by
  fun_induction readRest total remaining link generalizing bs link' with
  | case1 =>
    cases h
    rfl
  | case3 remaining link hr b bs₁ link₁ hread rest link₂ hrest ih =>
    cases h
    exact (ih hrest).trans (noticed_read hread)
  | case2 | case4 | case5 | case6 => cases h

/-- Nobody is warned while a frame is read well, however long it was waited for. -/
theorem warnings_receiveFrame {capacity : Nat} {timeout : Duration} {bs : Bytes}
    (h : receiveFrame capacity timeout link = .ok bs link') : link'.warnings = link.warnings := by
  unfold receiveFrame at h
  dsimp only at h
  split at h
  · simp only [bind_eq_ok_iff, throw_ne_ok, false_and, exists_false] at h
  simp only [bind_eq_ok_iff, get_eq_ok_iff] at h
  obtain ⟨_, _, ⟨rfl, rfl⟩, first, link₁, hfirst, head, link₂, hhead, h⟩ := h
  split at h
  · simp only [bind_eq_ok_iff, throw_ne_ok, false_and, exists_false, and_false] at h
  simp only [bind_eq_ok_iff, note_eq_ok_iff, pure_eq_ok_iff] at h
  obtain ⟨payload, link₃, hpayload, _, _, rfl, rfl, rfl⟩ := h
  rw [warnings_note_of_ne rfl, warnings_of_noticed (noticed_readRest hpayload),
    warnings_of_noticed (noticed_readRest hhead), warnings_awaitByte hfirst]

end LinkM

namespace Link

/-! ### Links but for their memory -/

/-- The links are the same, but they may remember other notices. -/
def SameButNotices (link link' : Link) : Prop :=
  ∃ noticed, link' = { link with noticed := noticed }

instance : IsEquiv Link SameButNotices where
  refl link := ⟨link.noticed, rfl⟩
  symm link _ := by
    rintro ⟨noticed, rfl⟩
    exact ⟨link.noticed, rfl⟩
  trans _ _ _ := by
    rintro ⟨noticed, rfl⟩ ⟨noticed', rfl⟩
    exact ⟨noticed', rfl⟩

/-- A read does not look at what is remembered. -/
theorem readsAlike_sameButNotices (room : Nat) : ReadsAlike SameButNotices room := by
  rintro link _ next outcome ⟨noticed, rfl⟩ hread
  obtain rfl : (link.read room).1 = outcome := congrArg Prod.fst hread
  obtain rfl : (link.read room).2 = next := congrArg Prod.snd hread
  refine ⟨{ (link.read room).2 with noticed := noticed }, ?_, noticed, rfl⟩
  have hserving : ({ link with noticed := noticed } : Link).serving room = link.serving room := rfl
  unfold read
  rw [hserving]
  rcases link.incoming with - | ⟨b | ⟨failure, after⟩ | -, rest⟩
  · cases link.idle <;> rfl
  all_goals rfl

/-- A reader of frames cannot tell what the link remembers. -/
theorem hiddenFromReading_sameButNotices : HiddenFromReading SameButNotices where
  clock_eq := by
    rintro _ _ ⟨noticed, rfl⟩
    rfl
  incoming_eq := by
    rintro _ _ ⟨noticed, rfl⟩
    rfl
  note notice := by
    rintro ⟨noticed, rfl⟩
    exact ⟨notice :: noticed, rfl⟩
  readOne := readsAlike_sameButNotices 1
  readRest := lockstep_readRest readsAlike_sameButNotices fun notice ⟨noticed, hl⟩ ↦
    ⟨notice :: noticed, by rw [hl]; rfl⟩

/-- No program of the library can tell what the link remembers. -/
theorem hidden_sameButNotices : Hidden SameButNotices where
  toHiddenFromReading := hiddenFromReading_sameButNotices
  answers_eq := by
    rintro _ _ ⟨noticed, rfl⟩
    rfl
  pass time := by
    rintro ⟨noticed, rfl⟩
    exact ⟨noticed, rfl⟩
  close := by
    rintro link _ ⟨noticed, rfl⟩
    unfold Link.close
    dsimp only
    cases hport : link.port with
    | none => exact ⟨noticed, by rw [hport]⟩
    | some path => exact ⟨.portClosed path :: noticed, rfl⟩
  writeAll := by
    refine lockstep_writeAll ?_ ?_
    · rintro _ _ ⟨noticed, rfl⟩
      exact ⟨rfl, rfl, rfl⟩
    · rintro _ _ bs ⟨noticed, rfl⟩
      exact ⟨noticed, rfl⟩
  flush := by
    refine lockstep_flush ?_ ?_ ?_
    · rintro _ _ ⟨noticed, rfl⟩
      rfl
    · rintro _ _ ⟨noticed, rfl⟩
      exact ⟨noticed, rfl⟩
    · rintro _ _ ⟨noticed, rfl⟩ -
      exact ⟨noticed, rfl⟩
  opening_eq := by
    rintro _ _ ⟨noticed, rfl⟩
    rfl
  paths_eq := by
    rintro _ _ ⟨noticed, rfl⟩
    rfl
  attempt path settings := by
    rintro ⟨noticed, rfl⟩
    exact ⟨noticed, rfl⟩
  clear path wait := by
    rintro ⟨noticed, rfl⟩
    exact ⟨noticed, rfl⟩

end Link

end LoraConcentrator

