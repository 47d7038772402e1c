import LoraConcentrator.Proofs.Link.Framing
import LoraConcentrator.Proofs.Link.Stops

/-!
# What a link keeps

A program on a link is put together from single reads, single writes, flushes and notices. A
preorder that each of these keeps is kept by the program, whatever comes of it: for reading a frame
the reads and the notices are asked for (`Link.KeptByReading`), for writing a request the writes and
flushes as well (`Link.Kept`).

Two preorders are meant. Reading moves on: what is left to read is the end of what was there
(`Link.keptByReading_onward`). And the clock never goes back (`Link.kept_later`).
-/

namespace LoraConcentrator

open Program

namespace Link

variable {R : Link → Link → Prop}

/-- Every read and every notice keeps a relation. -/
structure KeptByReading (R : Link → Link → Prop) : Prop where
  note : ∀ link notice, R link (link.note notice)
  read : ∀ link room, R link (link.read room).2

/-- Whatever a link does with a frame keeps a relation. -/
structure Kept (R : Link → Link → Prop) : Prop extends KeptByReading R where
  write : ∀ link bs, R link (link.write bs).2
  flush : ∀ link, R link link.flush.2

/-! ### Reading -/

namespace KeptByReading

variable (h : KeptByReading R) {link next : Link}

include h

/-- Every single read keeps the relation, whatever it finds. -/
theorem of_read {room : Nat} {outcome : Except IoFailure Bytes}
    (hread : link.read room = (outcome, next)) : R link next := by
  have hkept := h.read link room
  rwa [hread] at hkept

theorem keeps_note (notice : Notice) : Keeps R (fun _ ↦ False) (LinkM.note notice) where
  of_ok hnote := by
    obtain rfl := LinkM.note_eq_ok_iff.1 hnote
    exact h.note _ notice
  of_error hnote := (LinkM.note_ne_error.1 hnote).elim

variable [IsPreorder Link R]

/-- A read with a notice of it. -/
theorem of_read_note {room : Nat} {outcome : Except IoFailure Bytes}
    (hread : link.read room = (outcome, next)) (notice : Notice) : R link (next.note notice) :=
  IsTrans.trans _ _ _ (h.of_read hread) (h.note next notice)

/-- By induction on what bounds the wait. -/
theorem keeps_awaitByte (start timeout : Duration) :
    Keeps R (fun _ ↦ False) (LinkM.awaitByte start timeout) where
  of_ok {link next _} hwait := by
    fun_induction LinkM.awaitByte start timeout link with
    | case1 link b bs link₁ hread =>
      cases hwait
      exact h.of_read hread
    | case3 link failure link₁ hread _ _ _ ih =>
      exact IsTrans.trans _ _ _ (h.of_read_note hread _) (ih hwait)
    | case2 | case4 | case5 => cases hwait
  of_error {link next _} hwait := by
    fun_induction LinkM.awaitByte start timeout link with
    | case1 => cases hwait
    | case2 link link₁ hread | case5 link failure link₁ hread =>
      cases hwait
      exact .inr (h.of_read hread)
    | case3 link failure link₁ hread _ _ _ ih =>
      exact (ih hwait).imp_right (IsTrans.trans _ _ _ (h.of_read_note hread _))
    | case4 link failure link₁ hread =>
      cases hwait
      exact .inr (h.of_read_note hread _)

/-- By induction on the bytes that are missing. -/
theorem keeps_readRest (total remaining : Nat) :
    Keeps R (fun _ ↦ False) (LinkM.readRest total remaining) where
  of_ok {link next bs} hrest := by
    fun_induction LinkM.readRest total remaining link generalizing bs next with
    | case1 =>
      cases hrest
      exact Std.Refl.refl _
    | case3 remaining link _ b bs₁ link₁ hread rest link₂ hlater ih =>
      cases hrest
      exact IsTrans.trans _ _ _ (h.of_read hread) (ih hlater)
    | case2 | case4 | case5 | case6 => cases hrest
  of_error {link next e} hrest := by
    fun_induction LinkM.readRest total remaining link generalizing e next with
    | case1 | case3 => cases hrest
    | case2 remaining link _ link₁ hread | case6 remaining link _ failure link₁ hread =>
      cases hrest
      exact .inr (h.of_read hread)
    | case4 remaining link _ b bs₁ link₁ hread e₁ link₂ hlater ih =>
      cases hrest
      exact (ih hlater).imp_right (IsTrans.trans _ _ _ (h.of_read hread))
    | case5 remaining link _ failure link₁ hread =>
      cases hrest
      exact .inr (h.of_read_note hread _)

theorem keeps_receiveAfter (capacity : Nat) (first : UInt8) :
    Keeps R (fun _ ↦ False) (LinkM.receiveAfter capacity first) := by
  refine (h.keeps_readRest _ _).bind fun head ↦ .ite ?_ ?_
  · refine (h.keeps_note _).bind fun _ ↦ (Keeps.throw _).bind fun _ ↦ ?_
    exact (h.keeps_readRest _ _).bind fun _ ↦ (h.keeps_note _).bind fun _ ↦ .pure _
  · exact (h.keeps_readRest _ _).bind fun _ ↦ (h.keeps_note _).bind fun _ ↦ .pure _

/-- What every single read keeps, the reading of a frame keeps. -/
theorem keeps_receiveFrame (capacity : Nat) (timeout : Duration) :
    Keeps R (fun _ ↦ False) (LinkM.receiveFrame capacity timeout) := by
  refine .ite ((Keeps.throw _).bind fun _ ↦ ?_) ?_
  all_goals
    refine Keeps.get.bind fun link ↦ (h.keeps_awaitByte _ _).bind fun first ↦ ?_
    exact h.keeps_receiveAfter capacity first

end KeptByReading

/-! ### Writing -/

namespace Kept

variable (h : Kept R)

include h

theorem keeps_flush : Keeps R (fun _ ↦ False) LinkM.flush := by
  refine .of_outcome fun link ↦ ?_
  have hkept := h.flush link
  rcases hflush : link.flush with ⟨failure | ⟨⟩, next⟩
  · refine .inr ⟨.io failure, next, ?_, by rwa [hflush] at hkept⟩
    rw [LinkM.flush, hflush]
  · refine .inl ⟨(), next, ?_, by rwa [hflush] at hkept⟩
    rw [LinkM.flush, hflush]

variable [IsPreorder Link R]

/-- By induction on the bytes and the faults that are left. -/
theorem keeps_writeAll (bs : Bytes) : Keeps R (fun _ ↦ False) (LinkM.writeAll bs) where
  of_ok {link next _} hwrite := by
    fun_induction LinkM.writeAll bs link with
    | case1 =>
      cases hwrite
      exact Std.Refl.refl _
    | case3 bs link _ n link₁ hw _ ih | case4 bs link _ failure link₁ hw _ _ ih =>
      have hkept := h.write link bs
      rw [hw] at hkept
      exact IsTrans.trans _ _ _ hkept (ih hwrite)
    | case2 | case5 => cases hwrite
  of_error {link next e} hwrite := by
    fun_induction LinkM.writeAll bs link with
    | case1 => cases hwrite
    | case2 bs link _ link₁ hw | case5 bs link _ failure link₁ hw =>
      have hkept := h.write link bs
      rw [hw] at hkept
      cases hwrite
      exact .inr hkept
    | case3 bs link _ n link₁ hw _ ih | case4 bs link _ failure link₁ hw _ _ ih =>
      have hkept := h.write link bs
      rw [hw] at hkept
      exact (ih hwrite).imp_right (IsTrans.trans _ _ _ hkept)

/-- What single writes and flushes keep, the writing of a request keeps. -/
theorem keeps_sendRequest (id : UInt8) (request : RequestCode) (payload : Bytes) :
    Keeps R (fun _ ↦ False) (LinkM.sendRequest id request payload) := by
  refine Keeps.bind ?_ fun frame ↦ ?_
  · cases requestFrame id request payload with
    | ok frame => exact .pure frame
    | error e => exact .throw e
  · refine (h.keeps_note _).bind fun _ ↦ (h.keeps_note _).bind fun _ ↦ ?_
    exact (h.keeps_writeAll frame).bind fun _ ↦ h.keeps_flush

end Kept

/-! ### What moves on -/

/-- What is left to read is the end of what was there, of the same line, and the clock did not go
back. -/
structure Onward (link link' : Link) : Prop where
  suffix : link'.incoming <:+ link.incoming
  idle_eq : link'.idle = link.idle
  clock_le : link.clock ≤ link'.clock

instance : IsPreorder Link Onward where
  refl _ := ⟨List.suffix_rfl, rfl, Nat.le_refl _⟩
  trans _ _ _ h h' :=
    ⟨h'.suffix.trans h.suffix, h'.idle_eq.trans h.idle_eq, Nat.le_trans h.clock_le h'.clock_le⟩

/-- A read takes from the front of what has arrived, and time goes on. -/
theorem onward_read (link : Link) (room : Nat) : Onward link (link.read room).2 := by
  rcases ha : link.ahead.byte? with - | b
  · rw [link.read_of_ahead ha room]
    exact ⟨List.tail_suffix _, rfl, Nat.le_add_right _ _⟩
  · obtain ⟨rest, hin⟩ := link.exists_of_byte?_ahead ha
    simp only [read, hin]
    exact ⟨hin ▸ ⟨_, map_takeBytes_append _ _⟩, rfl, Nat.le_refl _⟩

theorem keptByReading_onward : KeptByReading Onward where
  note _ _ := ⟨List.suffix_rfl, rfl, Nat.le_refl _⟩
  read := onward_read

/-- The clock did not go back. -/
def Later (link link' : Link) : Prop := link.clock ≤ link'.clock

instance : IsPreorder Link Later where
  refl link := Nat.le_refl link.clock.nanos
  trans _ _ _ h h' := Nat.le_trans h h'

theorem kept_later : Kept Later where
  note link _ := Nat.le_refl link.clock.nanos
  read link room := (onward_read link room).clock_le
  write link bs := by
    refine Nat.le_of_eq ?_
    unfold write
    split
    · rfl
    · rfl
    · split <;> rfl
  flush link := by
    refine Nat.le_of_eq ?_
    unfold flush
    split
    · rfl
    · split <;> rfl

end Link

end LoraConcentrator
