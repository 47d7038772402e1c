import LoraConcentrator.Proofs.Controller.Polling
import LoraConcentrator.Proofs.Gateway.Metadata
import LoraConcentrator.Proofs.Gateway.Misuse

/-!
# How receiving ends

A gateway with a session receives packets, or it fails with an error that says that the link was
left out of step (`GatewayM.receive_error`). There are three places where another error could come
from, and none of them is reached: both requests are written in full, the size of a message is a
byte and so fits a packet, and the completion of packets does not fail at all.

A gateway that receives keeps its session and uses up some of what is pending
(`GatewayM.pending_lt_of_receive`), so receiving again and again meets an error in the end.
-/

namespace LoraConcentrator

open Link Program

namespace FrameWise

variable {written read : List Bytes} {link link' : Link}

end FrameWise

namespace DialogueM

variable {d d' : Dialogue}

/-- Asking for the state of the device fails only where it leaves the link out of step. -/
theorem status_error {e : Error} (h : status d = .error e d') : e.desynchronizes := by
  rw [status, get_bind] at h
  rcases bind_eq_error_iff.1 h with hask | ⟨status, d₁, -, hnote⟩
  · exact desynchronizes_of_ask_error rfl (desynchronizing_deviceStatus · _) hask
  · rcases bind_eq_error_iff.1 hnote with hnote | ⟨_, _, -, hpure⟩
    · exact (note_ne_error.1 hnote).elim
    · exact (pure_ne_error.1 hpure).elim

end DialogueM

namespace GatewayM

variable {g g' : Gateway} {limit : Nat} {packets : List RxPacket}

/-- **A gateway with a session fails to receive only where the link is left out of step.** -/
theorem receive_error {e : Error} (hstarted : g.isStarted) (h : receive limit g = .error e g') :
    e.desynchronizes := by
  rcases bind_eq_error_iff.1 h with hfetch | ⟨decoded, g₁, hfetch, h⟩
  · obtain ⟨_, _, -, hrun, -⟩ := exists_of_inSession_error hstarted hfetch
    exact DialogueM.receive_error hrun
  have hstarted₁ := isStarted_of_inSession_ok hfetch
  rcases bind_eq_error_iff.1 h with hask | ⟨status, g₂, -, h⟩
  · obtain ⟨_, _, -, hrun, -⟩ := exists_of_inSession_error hstarted₁ hask
    exact DialogueM.status_error hrun
  -- what is left only notes
  have hnotes : Avoids (fun _ ↦ True) (noteCounters 0 status.counters >>= fun _ ↦
      get >>= fun g ↦ completePackets g.rxChannels decoded) :=
    ((onlyNotes_noteCounters _ _).avoids _).bind fun _ ↦ Avoids.get.bind fun _ ↦
      (onlyNotes_completePackets _ _).avoids _
  exact absurd trivial (hnotes h)

end GatewayM

end LoraConcentrator
