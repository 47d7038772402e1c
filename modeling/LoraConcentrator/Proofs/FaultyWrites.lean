import LoraConcentrator.Proofs.Controller.Writing
import LoraConcentrator.Proofs.Gateway.Lockstep
import LoraConcentrator.Proofs.Link.Faults

/-!
# Faulty writes

A write may accept only some of the bytes, be interrupted, accept none of them or fail, and handing
over may fail, anywhere in the frame of an exchange. Whatever it is, the bytes of the exchange are
the start of its frame, and nothing is read before all of them were accepted and handed over: an
exchange that cannot write is over, with an error that says that the link is out of step, and the
reader's side of the link is as it was (`DialogueM.exchange_of_unwritten`). Otherwise the reply is
read as if nothing had happened (`DialogueM.exchange_of_written`).

Where writes are at most interrupted, the most bytes that each of them accepts show in no session.
Main statement: `Link.writes_inOrder`.
-/

namespace LoraConcentrator

open Program

namespace DialogueM

/-- Nothing was read, no time passed and no numbers of radios were learned. -/
structure Unheard (d d' : Dialogue) : Prop where
  incoming_eq : d'.link.incoming = d.link.incoming
  answers_eq : d'.link.answers = d.link.answers
  reads_eq : d'.link.reads = d.link.reads
  clock_eq : d'.link.clock = d.link.clock
  rxRadios_eq : d'.controller.rxRadios = d.controller.rxRadios
  txRadios_eq : d'.controller.txRadios = d.controller.txRadios

/-- A frame was written and handed over, and what the device answers to it has arrived; nothing was
read yet. -/
structure Handed (frame : Bytes) (d d' : Dialogue) : Prop where
  sent_eq : d'.link.sent = d.link.sent ++ frame
  flushFaults_eq : d'.link.flushFaults = d.link.flushFaults.tail
  incoming_eq : d'.link.incoming = d.link.incoming ++ (d.link.answers.headD []).map .byte
  answers_eq : d'.link.answers = d.link.answers.tail
  reads_eq : d'.link.reads = d.link.reads
  clock_eq : d'.link.clock = d.link.clock
  controller_eq : d'.controller = d.controller.withIds d.controller.ids.next.2

variable {request : Request} {frame : Bytes} {d d' : Dialogue}

/-- Writing a request is writing its frame under the next id. -/
theorem exists_speak_eq (hframe : request.frame d.controller.ids.next.1 = .ok frame) :
    ∃ payload, requestFrame d.controller.ids.next.1 request.code payload = .ok frame ∧
      speak request d =
        (onLink (LinkM.sendRequest d.controller.ids.next.1 request.code payload) >>=
          fun _ ↦ pure d.controller.ids.next.1)
            { d with controller := d.controller.withIds d.controller.ids.next.2 } := by
  obtain ⟨payload, hpayload, hrequest⟩ := except_bind_eq_ok_iff.1 hframe
  refine ⟨payload, hrequest, ?_⟩
  rw [speak, bind_of_ok (drawId_eq_ok_iff.2 ⟨rfl, rfl⟩), hpayload]
  rfl

/-- An exchange that cannot write its frame, or cannot hand it over, is over, and nothing was
read. -/
theorem exchange_of_unwritten {failure : IoFailure}
    (hframe : request.frame d.controller.ids.next.1 = .ok frame)
    (hfailure : d.link.writeFailure? frame.length = some failure ∨
      d.link.Takes frame.length ∧ d.link.flushFailure? = some failure) :
    ∃ d', exchange request d = .error (.io failure) d' ∧ Unheard d d' := by
  obtain ⟨payload, hrequest, hspeak⟩ := exists_speak_eq hframe
  obtain ⟨noticed, count, sent, -, hsend⟩ := LinkM.exists_sendRequest_eq hrequest d.link
  have hover {link' : Link}
      (h : LinkM.sendRequest d.controller.ids.next.1 request.code payload d.link =
        .error (.io failure) link') :
      exchange request d =
        .error (.io failure) ⟨d.controller.withIds d.controller.ids.next.2, link'⟩ := by
    rw [exchange_eq]
    exact bind_of_error (hspeak.trans (bind_of_error (onLink_eq_error_iff.2 ⟨link', h, rfl⟩)))
  rcases hfailure with hwrite | ⟨hwrite, hflush⟩
  · rw [hwrite] at hsend
    exact ⟨_, hover hsend, rfl, rfl, rfl, rfl, rfl, rfl⟩
  · rw [Link.Takes] at hwrite
    rw [hwrite, hflush] at hsend
    exact ⟨_, hover hsend, rfl, rfl, rfl, rfl, rfl, rfl⟩

/-- An exchange that can write its frame and hand it over reads after that. -/
theorem exchange_of_written (hframe : request.frame d.controller.ids.next.1 = .ok frame)
    (hwrite : d.link.Takes frame.length) (hflush : d.link.flushFailure? = none) :
    ∃ handed, Handed frame d handed ∧
      exchange request d = (listen >>= check d.controller.ids.next.1) handed := by
  obtain ⟨payload, hrequest, hspeak⟩ := exists_speak_eq hframe
  obtain ⟨noticed, count, sent, haccepted, hsend⟩ := LinkM.exists_sendRequest_eq hrequest d.link
  obtain rfl := haccepted.whole_iff.2 hwrite
  rw [Link.Takes] at hwrite
  rw [hwrite, hflush] at hsend
  refine ⟨⟨d.controller.withIds d.controller.ids.next.2,
    { (d.link.afterWrites count sent).flushed with noticed := noticed }⟩,
    ⟨rfl, rfl, rfl, rfl, rfl, rfl, rfl⟩, ?_⟩
  rw [exchange_eq]
  exact bind_of_ok (hspeak.trans (bind_of_ok (onLink_eq_ok_iff.2 ⟨_, hsend, rfl⟩)))

/-- A request without a frame is not written. -/
theorem exchange_of_no_frame {e : Error}
    (hframe : request.frame d.controller.ids.next.1 = .error e) :
    ∃ d', exchange request d = .error e d' ∧ d'.link = d.link := by
  refine ⟨{ d with controller := d.controller.withIds d.controller.ids.next.2 }, ?_, rfl⟩
  have hpayload : request.payload = .error e := by
    rcases hpayload : request.payload with e' | payload
    · rw [Request.frame, hpayload] at hframe
      exact hframe
    · rw [Request.frame, hpayload] at hframe
      cases (Request.requestFrame_eq_ok _ hpayload).symm.trans hframe
  have hspeak : speak request d =
      .error e { d with controller := d.controller.withIds d.controller.ids.next.2 } := by
    rw [speak, bind_of_ok (drawId_eq_ok_iff.2 ⟨rfl, rfl⟩), hpayload]
    rfl
  rw [exchange_eq]
  exact bind_of_error hspeak

/-- The bytes of an exchange are the start of its frame, and all of it exactly when the writes met
nothing worse than interruptions. -/
theorem exists_sent_of_exchange (hframe : request.frame d.controller.ids.next.1 = .ok frame)
    (h : (∃ reply, exchange request d = .ok reply d') ∨ ∃ e, exchange request d = .error e d') :
    ∃ count sent, d'.link.writes = d.link.writes + count ∧
      d'.link.writeFaults = d.link.writeFaults.drop count ∧
      d'.link.sent = d.link.sent ++ sent ∧ sent <+: frame ∧
      (sent = frame ↔ d.link.Takes frame.length) ∧
      (sent = frame ↔ ¬ d.link.isGone ∧
        ∀ fault, some fault ∈ d.link.writeFaults.take count →
          ∃ failure, fault = .failure failure ∧ failure.kind = .interrupted) := by
  have hoffered : Offered request d d' := by
    rcases h with ⟨reply, h⟩ | ⟨e, h⟩
    · exact (offers_exchange hframe).of_ok h
    · exact (offers_exchange hframe).of_error h
  obtain ⟨bytes, count, sent, hframe', haccepted, hmade⟩ := hoffered
  cases hframe'.symm.trans hframe
  refine ⟨count, sent, hmade.writes_eq, hmade.writeFaults_eq, hmade.sent_eq, haccepted.start,
    haccepted.whole_iff, ?_⟩
  have hne : frame ≠ [] := (Request.isFrame_of_frame hframe).ne_nil
  rw [haccepted.whole_iff, haccepted.undisturbed_iff]
  simp only [hne, ne_eq, not_false_eq_true, forall_const, WriteFault.failure?_eq_none_iff]

end DialogueM

open DialogueM Link

/-- **Faulty writes lose no place.** An exchange whose request has no frame writes nothing. Of any
other, what the link accepts is the start of the frame, in however many writes, and the whole frame
exactly when none of these writes met more than an interruption. When a write or the flush fails,
the exchange is over with that failure, which desynchronizes the link, and nothing was read; only
when neither does is the reply read, from a link that accepted the whole frame.

However few bytes each write accepts, and wherever writes are interrupted, the operations of a
controller or of a gateway have the same outcomes, write the same bytes and leave links that agree
in all else. -/
theorem Link.writes_inOrder :
    (∀ (request : Request) (d : Dialogue) (e : Error),
      request.frame d.controller.ids.next.1 = .error e →
        ∃ d', exchange request d = .error e d' ∧ d'.link = d.link) ∧
    (∀ (request : Request) (d : Dialogue) (frame : Bytes),
      request.frame d.controller.ids.next.1 = .ok frame →
        (∀ d', ((∃ reply, exchange request d = .ok reply d') ∨
            ∃ e, exchange request d = .error e d') →
          ∃ count sent, d'.link.writes = d.link.writes + count ∧
            d'.link.writeFaults = d.link.writeFaults.drop count ∧
            d'.link.sent = d.link.sent ++ sent ∧ sent <+: frame ∧
            (sent = frame ↔ d.link.Takes frame.length) ∧
            (sent = frame ↔ ¬ d.link.isGone ∧
              ∀ fault, some fault ∈ d.link.writeFaults.take count →
                ∃ failure, fault = .failure failure ∧ failure.kind = .interrupted)) ∧
        (∀ failure, d.link.writeFailure? frame.length = some failure ∨
            d.link.Takes frame.length ∧ d.link.flushFailure? = some failure →
          (Error.io failure).desynchronizes ∧
            ∃ d', exchange request d = .error (.io failure) d' ∧ Unheard d d') ∧
        (d.link.Takes frame.length → d.link.flushFailure? = none →
          ∃ handed, Handed frame d handed ∧
            exchange request d = (listen >>= check d.controller.ids.next.1) handed)) ∧
    (∀ (operations : List Controller.Operation) (d : Dialogue) (limit limit' : Nat → Nat)
        (faults faults' : List (Option WriteFault)),
      (∀ fault, some fault ∈ faults ++ faults' →
        ∃ failure, fault = .failure failure ∧ failure.kind = .interrupted) →
      let run (limit : Nat → Nat) (faults : List (Option WriteFault)) :=
        Controller.run operations
          { d with link := { d.link with writeLimit := limit, writeFaults := faults } }
      (run limit' faults').1 = (run limit faults).1 ∧
        (run limit' faults').2.link.sent = (run limit faults).2.link.sent ∧
        Dialogue.Over SameButPieces (run limit faults).2 (run limit' faults').2) ∧
    ∀ (operations : List Gateway.Operation) (g : Gateway) (limit limit' : Nat → Nat)
        (faults faults' : List (Option WriteFault)),
      (∀ fault, some fault ∈ faults ++ faults' →
        ∃ failure, fault = .failure failure ∧ failure.kind = .interrupted) →
      let run (limit : Nat → Nat) (faults : List (Option WriteFault)) :=
        Gateway.run operations
          { g with link := { g.link with writeLimit := limit, writeFaults := faults } }
      (run limit' faults').1 = (run limit faults).1 ∧
        (run limit' faults').2.link.sent = (run limit faults).2.link.sent ∧
        Gateway.Over SameButPieces (run limit faults).2 (run limit' faults').2 := by
  have hsame (link : Link) (limit limit' : Nat → Nat) (faults faults' : List (Option WriteFault))
      (hfaults : ∀ fault, some fault ∈ faults ++ faults' →
        ∃ failure, fault = .failure failure ∧ failure.kind = .interrupted) :
      SameButPieces { link with writeLimit := limit, writeFaults := faults }
        { link with writeLimit := limit', writeFaults := faults' } :=
    ⟨fun fault h ↦ WriteFault.failure?_eq_none_iff.2 (hfaults fault (List.mem_append_left _ h)),
      fun fault h ↦ WriteFault.failure?_eq_none_iff.2 (hfaults fault (List.mem_append_right _ h)),
      limit', link.writes, faults', rfl⟩
  refine ⟨fun request d e ↦ exchange_of_no_frame, fun request d frame hframe ↦
    ⟨fun d' ↦ exists_sent_of_exchange hframe,
      fun failure hfailure ↦ ⟨rfl, exchange_of_unwritten hframe hfailure⟩,
      exchange_of_written hframe⟩,
    fun operations d limit limit' faults faults' hfaults ↦ ?_,
    fun operations g limit limit' faults faults' hfaults ↦ ?_⟩
  · have hover : Dialogue.Over SameButPieces
        { d with link := { d.link with writeLimit := limit, writeFaults := faults } }
        { d with link := { d.link with writeLimit := limit', writeFaults := faults' } } :=
      ⟨_, hsame d.link limit limit' faults faults' hfaults, rfl⟩
    obtain ⟨houtcomes, hend⟩ := Controller.run_over hidden_sameButPieces operations hover
    obtain ⟨link, hlinks, hlink⟩ := hend
    exact ⟨houtcomes, (congrArg (·.link.sent) hlink).trans hlinks.sent_eq, link, hlinks, hlink⟩
  · have hover : Gateway.Over SameButPieces
        { g with link := { g.link with writeLimit := limit, writeFaults := faults } }
        { g with link := { g.link with writeLimit := limit', writeFaults := faults' } } :=
      ⟨_, hsame g.link limit limit' faults faults' hfaults, rfl⟩
    obtain ⟨houtcomes, hend⟩ := Gateway.run_over hidden_sameButPieces operations hover
    obtain ⟨link, hlinks, hlink⟩ := hend
    exact ⟨houtcomes, (congrArg (·.link.sent) hlink).trans hlinks.sent_eq, link, hlinks, hlink⟩

/-- A link that accepts three bytes at a time, with what goes wrong with its first writes. -/
def hesitant (faults : List (Option WriteFault)) : Dialogue where
  controller := {}
  link := { writeLimit := fun _ ↦ 3, writeFaults := faults }

/-- Interrupted after three bytes, a frame of four is still written in full. When the second write
accepts nothing, the exchange is over with those three bytes written. And two exchanges on a link
that is interrupted twice write what they would byte by byte. -/
theorem Link.writes_inOrder_hesitant :
    ∃ frame handed d', Request.ping.frame (hesitant []).controller.ids.next.1 = .ok frame ∧
      frame.length = 4 ∧
      exchange .ping (hesitant [none, some (.failure ⟨.interrupted, ""⟩)]) =
        (listen >>= check (hesitant []).controller.ids.next.1) handed ∧
      handed.link.sent = frame ∧
      exchange .ping (hesitant [none, some .refusal]) =
        .error (.io ⟨.writeZero, "failed to write whole buffer"⟩) d' ∧
      d'.link.reads = 0 ∧ d'.link.writes = 2 ∧ d'.link.sent = frame.take 3 ∧
      (Controller.run [.ping, .ping] (hesitant
        [some (.failure ⟨.interrupted, ""⟩), none,
          some (.failure ⟨.interrupted, ""⟩)])).2.link.sent =
        (Controller.run [.ping, .ping] ⟨{}, { writeLimit := fun _ ↦ 1 }⟩).2.link.sent := by
  obtain ⟨-, hexchange, hsession, -⟩ := Link.writes_inOrder
  obtain ⟨frame, hframe⟩ := Request.exists_frame (r := .ping) (by decide)
    (hesitant []).controller.ids.next.1
  have hlength : frame.length = 4 := by
    obtain ⟨payload, hpayload, rfl⟩ := Request.frame_eq_ok_iff.1 hframe
    cases hpayload
    rfl
  obtain ⟨-, -, hwritten⟩ :=
    hexchange .ping (hesitant [none, some (.failure ⟨.interrupted, ""⟩)]) frame hframe
  obtain ⟨hsent, hunwritten, -⟩ := hexchange .ping (hesitant [none, some .refusal]) frame hframe
  obtain ⟨handed, hhanded, hhear⟩ := hwritten (by rw [hlength]; decide) (by decide)
  obtain ⟨-, d', hover, hunheard⟩ :=
    hunwritten ⟨.writeZero, "failed to write whole buffer"⟩ (.inl (by rw [hlength]; decide))
  obtain ⟨count, sent, hwrites, -, hsent, hstart, -, -⟩ := hsent d' (.inr ⟨_, hover⟩)
  have hrun : (match exchange .ping (hesitant [none, some .refusal]) with
      | .ok _ d | .error _ d => (d.link.writes, d.link.sent.length)) = (2, 3) := by decide +kernel
  rw [hover, Prod.mk.injEq] at hrun
  have hthree : sent.length = 3 := by rw [← hrun.2, hsent]; rfl
  refine ⟨frame, handed, d', hframe, hlength, hhear, hhanded.sent_eq, hover, hunheard.reads_eq,
    hrun.1, ?_, ?_⟩
  · rw [hsent, ← hthree]
    exact List.prefix_iff_eq_take.1 hstart
  · refine (hsession [.ping, .ping] (hesitant []) (fun _ ↦ 1) (fun _ ↦ 3) []
      [some (.failure ⟨.interrupted, ""⟩), none, some (.failure ⟨.interrupted, ""⟩)] ?_).2.1
    intro fault hfault
    simp only [List.nil_append, List.mem_cons, Option.some.injEq, reduceCtorEq, List.not_mem_nil,
      or_false, false_or, or_self] at hfault
    exact ⟨_, hfault, rfl⟩

end LoraConcentrator
