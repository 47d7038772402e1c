import LoraConcentrator.Link.Framing
import LoraConcentrator.Proofs.Lockstep

/-!
# Links that cannot be told apart

A relation between links is hidden from the programs of the library when every program runs in
lockstep on related links. It depends on few things whether a relation is hidden. For reading, the
clock and what has arrived must be the same, and the parts that a frame is read in must run in
lockstep (`Link.HiddenFromReading`); whole frames then do so as well. For the rest it is writing,
handing over and opening that are asked for (`Link.Hidden`).

A part of a frame is more than one read. Links that serve their bytes in different portions agree on
no read but that of a single byte, and still on every part, so nothing is asked of longer reads.
-/

namespace LoraConcentrator

open Program

namespace LinkM

/-! ### Loops by what their first step finds -/

section Steps

variable {link next : Link}

/-- What the first read finds decides how the wait for a byte goes on. -/
theorem awaitByte_of_read {start timeout : Duration} {outcome : Except IoFailure Bytes} :
    link.read 1 = (outcome, next) → awaitByte start timeout link =
      match outcome with
      | .ok (b :: _) => .ok b next
      | .ok [] => .error .disconnected next
      | .error failure =>
        let elapsed := next.clock - start
        if failure.kind = .timedOut ∧ elapsed < timeout then
          awaitByte start timeout (next.note (.stillWaiting elapsed))
        else if failure.kind = .interrupted then
          .error .interrupted (next.note .interruptedWaiting)
        else .error (.io failure) next := by
  intro h
  rw [awaitByte]
  split
  · rename_i hread
    cases h.symm.trans hread
    rfl
  · rename_i hread
    cases h.symm.trans hread
    rfl
  · rename_i hread
    cases h.symm.trans hread
    rfl

/-- What the first read finds decides how the rest of a part is read. -/
theorem readRest_of_read {total remaining : Nat} {outcome : Except IoFailure Bytes}
    (hremaining : remaining ≠ 0) :
    link.read remaining = (outcome, next) → readRest total remaining link =
      match outcome with
      | .ok (b :: bs) => ((b :: bs ++ ·) <$> readRest total (remaining - (bs.length + 1))) next
      | .ok [] => .error .disconnected next
      | .error failure =>
        if failure.kind = .interrupted then
          .error .interrupted (next.note (.interruptedReading (total - remaining) total))
        else .error (.io failure) next := by
  intro h
  rw [readRest, dif_neg hremaining, h]
  rcases outcome with failure | (- | ⟨b, bs⟩)
  · rfl
  · rfl
  · dsimp only
    rcases hrest : readRest total (remaining - (bs.length + 1)) next with ⟨bs', link'⟩ | ⟨e, link'⟩
    · exact (map_of_ok _ hrest).symm
    · exact (map_of_error _ hrest).symm

/-- What the first write comes to decides how the writing goes on. -/
theorem writeAll_of_write {bs : Bytes} {outcome : Except IoFailure Nat} (hbs : bs ≠ []) :
    link.write bs = (outcome, next) → writeAll bs link =
      match outcome with
      | .ok 0 => .error (.io ⟨.writeZero, "failed to write whole buffer"⟩) next
      | .ok (n + 1) => writeAll (bs.drop (n + 1)) next
      | .error failure =>
        if failure.kind = .interrupted then writeAll bs next else .error (.io failure) next := by
  intro h
  rw [writeAll, dif_neg hbs]
  split
  · rename_i hw
    cases h.symm.trans hw
    rfl
  · rename_i hw
    cases h.symm.trans hw
    rfl
  · rename_i hw
    cases h.symm.trans hw
    rfl

end Steps

end LinkM

namespace Link

variable {L : Link → Link → Prop}

/-! ### Reading -/

/-- A read of that many bytes finds the same on related links and leaves them related. -/
def ReadsAlike (L : Link → Link → Prop) (room : Nat) : Prop :=
  ∀ ⦃link link' next : Link⦄ ⦃outcome : Except IoFailure Bytes⦄, L link link' →
    link.read room = (outcome, next) →
      ∃ next', link'.read room = (outcome, next') ∧ L next next'

/-- Parts of frames are read in lockstep when every single read finds the same on related links. By
induction on the bytes that are missing. -/
theorem lockstep_readRest (hread : ∀ room, ReadsAlike L room)
    (hnote : ∀ {link link' : Link} (notice : Notice), L link link' →
      L (link.note notice) (link'.note notice)) (total remaining : Nat) :
    Lockstep L (LinkM.readRest total remaining) (LinkM.readRest total remaining) := by
  induction remaining using Nat.strongRecOn with
  | ind remaining ih =>
    intro link link' hl
    by_cases hremaining : remaining = 0
    · rw [LinkM.readRest, LinkM.readRest, dif_pos hremaining, dif_pos hremaining]
      exact .ok hl
    rcases h : link.read remaining with ⟨outcome, next⟩
    obtain ⟨next', h', hnext⟩ := hread remaining hl h
    rw [LinkM.readRest_of_read hremaining h, LinkM.readRest_of_read hremaining h']
    match outcome with
    | .ok (b :: bs) =>
      have hless : remaining - (bs.length + 1) < remaining := by omega
      exact (ih _ hless hnext).map _
    | .ok [] => exact .error hnext
    | .error failure =>
      dsimp only
      split
      · exact .error (hnote _ hnext)
      · exact .error hnext

/-- A relation between links that no reader of frames can observe. -/
structure HiddenFromReading (L : Link → Link → Prop) : Prop where
  clock_eq : ∀ {link link' : Link}, L link link' → link'.clock = link.clock
  incoming_eq : ∀ {link link' : Link}, L link link' → link'.incoming = link.incoming
  note : ∀ {link link' : Link} (notice : Notice), L link link' →
    L (link.note notice) (link'.note notice)
  readOne : ReadsAlike L 1
  readRest : ∀ total remaining,
    Lockstep L (LinkM.readRest total remaining) (LinkM.readRest total remaining)

namespace HiddenFromReading

variable (h : HiddenFromReading L)

include h

theorem lockstep_note (notice : Notice) : Lockstep L (LinkM.note notice) (LinkM.note notice) :=
  .modify fun _ _ hl ↦ h.note notice hl

/-- By induction on what bounds the wait. -/
theorem awaitByte (start timeout : Duration) :
    Lockstep L (LinkM.awaitByte start timeout) (LinkM.awaitByte start timeout) := by
  intro link link' hl
  induction hbound : LinkM.patience start timeout link using Nat.strongRecOn
    generalizing link link' with
  | ind bound ih =>
    rcases hread : link.read 1 with ⟨outcome, next⟩
    obtain ⟨next', hread', hnext⟩ := h.readOne hl hread
    rw [LinkM.awaitByte_of_read hread, LinkM.awaitByte_of_read hread']
    match outcome with
    | .ok (b :: _) => exact .ok hnext
    | .ok [] => exact .error hnext
    | .error failure =>
      dsimp only
      rw [h.clock_eq hnext]
      split
      · rename_i hwaits
        have hless := LinkM.patience_lt (.stillWaiting (next.clock - start)) hread hwaits.1 hwaits.2
        exact ih _ (hbound ▸ hless) (h.note _ hnext) rfl
      · split
        · exact .error (h.note .interruptedWaiting hnext)
        · exact .error hnext

/-- Reading a frame does not show what reads do not. -/
theorem receiveFrame (capacity : Nat) (timeout : Duration) :
    Lockstep L (LinkM.receiveFrame capacity timeout) (LinkM.receiveFrame capacity timeout) := by
  unfold LinkM.receiveFrame
  dsimp only
  split
  · exact .throw_bind _ _ _
  refine .get_bind fun link link' hl ↦ ?_
  rw [h.clock_eq hl]
  refine Lockstep.bind (h.awaitByte _ _) (fun first ↦ ?_) hl
  refine (h.readRest _ _).bind fun head ↦ ?_
  -- a frame that does not fit is left after its header
  split
  · exact (h.lockstep_note _).bind fun _ ↦ .throw_bind _ _ _
  · refine (h.readRest _ _).bind fun payload ↦ ?_
    exact (h.lockstep_note _).bind fun _ ↦ .pure _

end HiddenFromReading

/-! ### Everything else -/

/-- A relation between links that no program of the library can observe. -/
structure Hidden (L : Link → Link → Prop) : Prop extends HiddenFromReading L where
  answers_eq : ∀ {link link' : Link}, L link link' → link'.answers = link.answers
  pass : ∀ {link link' : Link} (time : Duration), L link link' →
    L (link.pass time) (link'.pass time)
  close : ∀ {link link' : Link}, L link link' → L link.close link'.close
  writeAll : ∀ bs, Lockstep L (LinkM.writeAll bs) (LinkM.writeAll bs)
  flush : Lockstep L LinkM.flush LinkM.flush
  opening_eq : ∀ {link link' : Link}, L link link' → link'.opening = link.opening
  paths_eq : ∀ {link link' : Link}, L link link' → link'.paths = link.paths
  /-- An attempt to open a path is recorded. -/
  attempt : ∀ {link link' : Link} (path : String) (settings : LinkSettings), L link link' →
    L { link with opened := link.opened ++ [(path, settings)] }
      { link' with opened := link'.opened ++ [(path, settings)] }
  /-- A serial port is cleared. -/
  clear : ∀ {link link' : Link} (path : String) (wait : Lapse), L link link' →
    L { link with incoming := [], idle := .silent wait, port := some path }
      { link' with incoming := [], idle := .silent wait, port := some path }

/-! ### Writing and handing over -/

/-- Of the link a write looks at nothing but what goes wrong with it, whether the other side is gone
and what share it takes. -/
theorem exists_write_eq (link : Link) (bs : Bytes) :
    ∃ outcome accepted, ∀ link' : Link, link'.writeFaults = link.writeFaults →
      link'.isGone = link.isGone → link'.accepting = link.accepting →
        link'.write bs = (outcome, link'.written accepted) := by
  rcases hfault : link.writeFaults.headD none with - | ⟨failure | -⟩
  · by_cases hgone : link.isGone
    · refine ⟨.error brokenPipe, [], fun link' hfaults hgone' haccepting ↦ ?_⟩
      simp only [write, hfaults, hfault, hgone', if_pos hgone]
    · refine ⟨.ok (link.accepting bs.length), bs.take (link.accepting bs.length),
        fun link' hfaults hgone' haccepting ↦ ?_⟩
      simp only [write, hfaults, hfault, hgone', haccepting, if_neg hgone]
  · refine ⟨.error failure, [], fun link' hfaults _ _ ↦ ?_⟩
    simp only [write, hfaults, hfault]
  · refine ⟨.ok 0, [], fun link' hfaults _ _ ↦ ?_⟩
    simp only [write, hfaults, hfault]

/-- Writing runs in lockstep when a write meets the same on related links, which remain related
whatever it accepts. By induction on the bytes and the faults that are left. -/
theorem lockstep_writeAll
    (hmeets : ∀ {link link' : Link}, L link link' → link'.writeFaults = link.writeFaults ∧
      link'.isGone = link.isGone ∧ link'.accepting = link.accepting)
    (hwritten : ∀ {link link' : Link} (bs : Bytes), L link link' →
      L (link.written bs) (link'.written bs)) (bs : Bytes) :
    Lockstep L (LinkM.writeAll bs) (LinkM.writeAll bs) := by
  intro link link' hl
  induction hbound : bs.length + link.writeFaults.length using Nat.strongRecOn
    generalizing bs link link' with
  | ind bound ih =>
    by_cases hbs : bs = []
    · rw [LinkM.writeAll, LinkM.writeAll, dif_pos hbs, dif_pos hbs]
      exact .ok hl
    obtain ⟨outcome, accepted, hwrite⟩ := link.exists_write_eq bs
    obtain ⟨hfaults, hgone, haccepting⟩ := hmeets hl
    have hw := hwrite link rfl rfl rfl
    have hnext := hwritten accepted hl
    rw [LinkM.writeAll_of_write hbs hw,
      LinkM.writeAll_of_write hbs (hwrite link' hfaults hgone haccepting)]
    match outcome with
    | .ok 0 => exact .error hnext
    | .ok (n + 1) =>
      have hlength : 0 < bs.length := List.length_pos_iff.2 hbs
      have hfaults := writeFaults_le_of_write hw
      refine ih _ ?_ _ hnext rfl
      rw [List.length_drop]
      omega
    | .error failure =>
      dsimp only
      split
      · rename_i hinterrupted
        have hfaults := writeFaults_lt_of_interrupted hw hinterrupted
        refine ih _ ?_ _ hnext rfl
        omega
      · exact .error hnext

/-- The failure that handing over what was written ends with, if there is one. -/
def flushFailure? (link : Link) : Option IoFailure :=
  (link.flushFaults.headD none).or (if link.isGone then some unflushed else none)

/-- The link after a flush that failed. -/
def unhanded (link : Link) : Link := { link with flushFaults := link.flushFaults.tail }

end Link

/-- The outcome of handing over what was written, by the next fault of a flush. -/
theorem LinkM.flush_eq (link : Link) :
    LinkM.flush link =
      match link.flushFailure? with
      | some failure => .error (.io failure) link.unhanded
      | none => .ok () link.flushed := by
  unfold LinkM.flush Link.flush Link.flushFailure?
  cases link.flushFaults.headD none with
  | some failure => rfl
  | none =>
    by_cases hgone : link.isGone
    · simp only [if_pos hgone, Option.none_or]
      rfl
    · simp only [if_neg hgone, Option.none_or]

namespace Link

/-- Handing over runs in lockstep when it comes to the same on related links, which remain related
whether it fails or not. -/
theorem lockstep_flush
    (hfailure : ∀ {link link' : Link}, L link link' → link'.flushFailure? = link.flushFailure?)
    (hunhanded : ∀ {link link' : Link}, L link link' → L link.unhanded link'.unhanded)
    (hflushed : ∀ {link link' : Link}, L link link' → ¬ link.isGone →
      L link.flushed link'.flushed) :
    Lockstep L LinkM.flush LinkM.flush := by
  intro link link' hl
  rw [LinkM.flush_eq, LinkM.flush_eq, hfailure hl]
  rcases hnone : link.flushFailure? with - | failure
  · refine .ok (hflushed hl fun hgone ↦ ?_)
    rw [flushFailure?, if_pos hgone, Option.or_eq_none_iff] at hnone
    cases hnone.2
  · exact .error (hunhanded hl)

namespace Hidden

variable (h : Hidden L)

include h

/-- What is hidden is not what is pending. -/
theorem pending_eq {link link' : Link} (hl : L link link') : link'.pending = link.pending := by
  rw [pending, pending, h.incoming_eq hl, h.answers_eq hl]

theorem lockstep_pass (time : Duration) : Lockstep L (LinkM.pass time) (LinkM.pass time) :=
  .modify fun _ _ hl ↦ h.pass time hl

omit h in
theorem lockstep_ofExcept {α : Type} (x : Except Error α) :
    Lockstep L (LinkM.ofExcept x) (LinkM.ofExcept x) := by
  cases x with
  | ok a => exact .pure a
  | error e => exact .throw e

/-- Writing a request does not show what is hidden. -/
theorem sendRequest (id : UInt8) (request : RequestCode) (payload : Bytes) :
    Lockstep L (LinkM.sendRequest id request payload) (LinkM.sendRequest id request payload) := by
  refine (lockstep_ofExcept _).bind fun frame ↦ ?_
  refine (h.lockstep_note _).bind fun _ ↦ (h.lockstep_note _).bind fun _ ↦ ?_
  exact (h.writeAll frame).bind fun _ ↦ h.flush

theorem setUp (path : String) (settings : LinkSettings) :
    Lockstep L (LinkM.setUp path settings) (LinkM.setUp path settings) := by
  refine (h.lockstep_pass _).bind fun _ ↦ Lockstep.bind ?_ fun _ ↦ h.lockstep_note _
  exact .modify fun _ _ hl ↦ h.clear path settings.readTimeout.lapse hl

theorem refuse (path : String) (failure : PortFailure) :
    Lockstep L (LinkM.refuse path failure) (LinkM.refuse path failure) :=
  (h.lockstep_note _).bind fun _ ↦ .throw _

theorem openPath (path : String) (settings : LinkSettings) :
    Lockstep L (LinkM.openPath path settings) (LinkM.openPath path settings) := by
  refine (Lockstep.modify fun _ _ hl ↦ h.attempt path settings hl).bind fun _ ↦ ?_
  refine .get_bind fun link link' hl ↦ ?_
  rw [h.opening_eq hl, h.paths_eq hl]
  cases link.opening with
  | attached => exact Lockstep.ite (.pure ()) (.throw _) hl
  | refused failure => exact h.refuse path failure hl
  | serialPort files =>
    dsimp only
    rcases files.openPort path with fault | -
    · exact h.refuse path fault.portFailure hl
    · exact h.setUp path settings hl

end Hidden

end Link

end LoraConcentrator
