import LoraConcentrator.Proofs.Gateway.Lockstep
import LoraConcentrator.Proofs.Link.Portions

/-!
# Short reads

How many bytes a read serves is up to the link, and may change from read to read. No session shows
it: whatever arrives, where reads fail and where the stream ends, the operations have the same
outcomes, and what they leave behind is the same but for the reads themselves
(`Link.portions_invisible`).
-/

namespace LoraConcentrator.Link

/-- **Short reads are invisible**: whether reads serve as many bytes as fit, one byte each or any
other portions, the operations of a controller or of a gateway have the same outcomes and leave the
same controller or gateway, over links that agree in all else. -/
theorem portions_invisible (limit limit' : Nat → Nat) :
    (∀ (operations : List Controller.Operation) (d : Dialogue),
      let run := Controller.run operations { d with link := { d.link with readLimit := limit } }
      let run' := Controller.run operations { d with link := { d.link with readLimit := limit' } }
      run'.1 = run.1 ∧
        ∃ link, SameButPortions run.2.link link ∧ run'.2 = { run.2 with link := link }) ∧
    ∀ (operations : List Gateway.Operation) (g : Gateway),
      let run := Gateway.run operations { g with link := { g.link with readLimit := limit } }
      let run' := Gateway.run operations { g with link := { g.link with readLimit := limit' } }
      run'.1 = run.1 ∧
        ∃ link, SameButPortions run.2.link link ∧ run'.2 = { run.2 with link := link } := by
  have hlink (link : Link) :
      SameButPortions { link with readLimit := limit } { link with readLimit := limit' } :=
    ⟨limit', link.reads, rfl⟩
  refine ⟨fun operations d ↦ ?_, fun operations g ↦ ?_⟩
  · exact Controller.run_over hidden_sameButPortions operations ⟨_, hlink d.link, rfl⟩
  · exact Gateway.run_over hidden_sameButPortions operations ⟨_, hlink g.link, rfl⟩

/-- A reply served in single bytes, with a read that fails in between, is told as it would be when
it came at once. -/
example :
    let reply : List Arrival := [0, 0, 5, 0x45, 1, 0, 3].map .byte ++
      [.failure ⟨.timedOut, "late"⟩ ⟨0⟩] ++ [0, 0, 0, 0, 1, 0x46, 0].map .byte
    let outcomes (limit : Nat → Nat) :=
      (Controller.run [.receive 0, .txStatus] ⟨{}, { incoming := reply, readLimit := limit }⟩).1
    outcomes (fun _ ↦ 1) = outcomes (fun _ ↦ 0) := by
  decide +kernel

end LoraConcentrator.Link
