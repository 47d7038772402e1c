import LoraConcentrator.Proofs.Controller.Writing
import LoraConcentrator.Proofs.Gateway.LifeCycle

/-!
# Packets that are handed over

A packet is handed to the transmit radio by one request, whose payload has a byte, or a few, for
each parameter of the packet and then the packet's own payload behind its size
(`TxPacket.HandedBy`). Two translations lie between: parameters become codes, one of them by
negation, and the codes become bytes. Neither loses anything (`TxPacket.setup_injective`,
`Request.payload_injective`), so different packets have different requests.

Main statement: a started gateway whose controller knows a receive radio writes just this request,
whatever comes of it, and the packet is known from it (`Gateway.send_losesNothing`).
-/

namespace LoraConcentrator

open Link Program

/-! ### Requests of packets -/

/-- The payload of a request shows the request, as reading undoes writing. -/
theorem Request.payload_injective {r r' : Request} {bs : Bytes} (hcode : r.code = r'.code)
    (h : r.payload = .ok bs) (h' : r'.payload = .ok bs) : r = r' := by
  have hread := ofPayload_payload h
  rw [hcode, ofPayload_payload h'] at hread
  exact (Except.ok.inj hread).symm

theorem SpreadingFactor.code_inj {a b : SpreadingFactor} (h : a.code = b.code) : a = b := by
  have hread := ofCode?_code a
  rw [h, ofCode?_code] at hread
  exact (Option.some.inj hread).symm

theorem Bandwidth.code_inj {a b : Bandwidth} (h : a.code = b.code) : a = b := by
  have hread := ofCode?_code a
  rw [h, ofCode?_code] at hread
  exact (Option.some.inj hread).symm

namespace TxPacket

/-- Different packets are handed over differently. -/
theorem setup_injective {p q : TxPacket} (h : p.setup = q.setup) : p = q := by
  have hmode := TxMode.code_inj.1 (congrArg TxSetup.mode h)
  have hcountUs : p.countUs = q.countUs := congrArg TxSetup.countUs h
  have hfreqHz : p.freqHz = q.freqHz := congrArg TxSetup.freqHz h
  have hpower : p.power = q.power := congrArg TxSetup.power h
  have hspreading := SpreadingFactor.code_inj (congrArg TxSetup.spreading h)
  have hbandwidth := Bandwidth.code_inj (congrArg TxSetup.bandwidth h)
  have hinvert : p.invertPolarity = q.invertPolarity := congrArg TxSetup.invertPolarity h
  have hcoding := CodingRate.wireCode_inj.1 (congrArg TxSetup.coding h)
  have hnoHeader : p.noHeader = q.noHeader := congrArg TxSetup.noHeader h
  have hnoCrc : p.noCrc = q.noCrc := Bool.not_inj (congrArg TxSetup.useCrc h)
  have hpreamble : p.preamble = q.preamble := congrArg TxSetup.preamble h
  have hsyncWord : p.syncWord = q.syncWord := congrArg TxSetup.syncWord h
  have hpayload : p.payload = q.payload := congrArg TxSetup.payload h
  cases p
  cases q
  simp_all only

/-- A header and a payload that hand a packet over under an id: the sizes are those of the packet,
and reading the payload gives the parameters of the packet again, as they are coded. -/
structure HandedBy (packet : TxPacket) (id : UInt8) (header : Header) (payload : Bytes) : Prop where
  payload_eq : (Request.prepareTx packet.setup).payload = .ok payload
  id_eq : header.id = id
  tag_eq : header.tag = RequestCode.prepareTx.code
  size_eq : header.size.toNat = 21 + packet.payload.size
  length_eq : (header.bytes ++ payload).length = 25 + packet.payload.size
  announced : ∃ size, payload[20]? = some size ∧ size.toNat = packet.payload.size
  decoded : Request.ofPayload .prepareTx payload = .ok (.prepareTx
    { mode := packet.mode.code
      countUs := packet.countUs
      freqHz := packet.freqHz
      power := packet.power
      spreading := packet.spreading.code
      bandwidth := packet.bandwidth.code
      invertPolarity := packet.invertPolarity
      coding := packet.coding.wireCode
      noHeader := packet.noHeader
      useCrc := !packet.noCrc
      ramp := 0xE0
      preamble := packet.preamble
      syncWord := packet.syncWord
      payload := packet.payload })

/-- The frame of the request for a packet hands it over. -/
theorem handedBy_of_frame {packet : TxPacket} {id : UInt8} {bytes : Bytes}
    (h : Request.frame id (.prepareTx packet.setup) = .ok bytes) :
    ∃ header payload, bytes = header.bytes ++ payload ∧ packet.HandedBy id header payload := by
  obtain ⟨payload, hpayload, rfl⟩ := Request.frame_eq_ok_iff.1 h
  have hlength : payload.length = 21 + packet.payload.size := by
    rw [← Except.ok.inj hpayload]
    exact Request.length_txSetupBytes packet.setup
  refine ⟨_, payload, rfl, hpayload, rfl, rfl, ?_, ?_, ?_, Request.ofPayload_payload hpayload⟩
  · have hle := Request.length_payload_le hpayload
    rw [Request.toNat_size_header id _ (by rw [requestCapacity]; omega), hlength]
  · rw [List.length_append, Header.length_bytes, Header.byteCount, hlength]
    omega
  · rw [← Except.ok.inj hpayload]
    exact ⟨UInt8.ofNat packet.payload.size, rfl, Request.toNat_ofNat_size packet.payload⟩

end TxPacket

namespace Gateway

open GatewayM DialogueM

/-- What a program of the session offers, an operation that runs it offers to the link. -/
theorem exists_offered_step {operation : Operation} {program : DialogueM Unit} {request : Request}
    {g : Gateway} {controller : Controller} (hoperation : operation.run =
      Operation.completing (inSession program)) (hsession : g.session = some controller)
    (hoffers : Offers request program ⟨controller, g.link⟩) :
    ∃ bytes count sent, request.frame controller.ids.next.1 = .ok bytes ∧
      Link.Offered bytes count sent g.link (step operation g).2.link := by
  rcases hprogram : program ⟨controller, g.link⟩ with ⟨u, d⟩ | ⟨e, d⟩
  · have hrun : Operation.completing (inSession program) g = .ok .done _ :=
      bind_of_ok (inSession_of_ok hsession hprogram)
    rw [step_of_ok (hoperation ▸ hrun)]
    exact hoffers.of_ok hprogram
  · have hrun : Operation.completing (inSession program) g = .error e _ :=
      bind_of_error (inSession_of_error hsession hprogram)
    rw [step_of_error (hoperation ▸ hrun)]
    exact hoffers.of_error hprogram

/-- **No parameter of a packet is lost**: where the controller knows a receive radio and the link
takes as many bytes, one frame is written, which hands the packet over; and different packets never
have the same payload there. -/
theorem send_losesNothing :
    (∀ (packet : TxPacket) (g : Gateway) (controller : Controller),
      g.session = some controller → 1 ≤ controller.rxRadios →
        g.link.Takes (25 + packet.payload.size) →
          ∃ header payload,
            (step (.send packet) g).2.link.sent = g.link.sent ++ (header.bytes ++ payload) ∧
              packet.HandedBy controller.ids.next.1 header payload) ∧
    ∀ p q : TxPacket,
      (Request.prepareTx p.setup).payload = (Request.prepareTx q.setup).payload → p = q := by
  constructor
  · intro packet g controller hsession hradio htakes
    have hoffers : Offers (.prepareTx packet.setup)
        (do DialogueM.note (.sending packet); DialogueM.prepareTx packet) ⟨controller, g.link⟩ :=
      .after_note (offers_prepareTx hradio packet)
    obtain ⟨bytes, count, sent, hframe, haccepted, hmade⟩ :=
      exists_offered_step (show (Operation.send packet).run = _ from rfl) hsession hoffers
    obtain ⟨header, payload, rfl, hhanded⟩ := TxPacket.handedBy_of_frame hframe
    have hwhole := haccepted.whole_iff.2 (hhanded.length_eq ▸ htakes)
    exact ⟨header, payload, hwhole ▸ hmade.sent_eq, hhanded⟩
  · intro p q h
    have hcode : (Request.prepareTx p.setup).code = (Request.prepareTx q.setup).code := rfl
    have hrequest := Request.payload_injective hcode h rfl
    exact TxPacket.setup_injective (Request.prepareTx.inj hrequest)

/-- The longest packet, at a power below zero and without a check, fills one frame of 280 bytes, on
a link that is interrupted in the middle of it. -/
theorem send_losesNothing_longest :
    let packet : TxPacket :=
      { power := -18, noCrc := true
        payload := ⟨List.replicate 255 0xA5, Nat.le_of_eq List.length_replicate⟩ }
    let g : Gateway :=
      { session := some { rxRadios := 1 }
        link := { writeLimit := fun _ ↦ 200,
                  writeFaults := [none, some (.failure ⟨.interrupted, ""⟩)] } }
    g.link.Takes 280 ∧
      ∃ header payload,
        (step (.send packet) g).2.link.sent = g.link.sent ++ (header.bytes ++ payload) ∧
          packet.HandedBy 0x40 header payload ∧ (header.bytes ++ payload).length = 280 := by
  intro packet g
  have htakes : g.link.Takes 280 := by decide
  have hsize : 25 + packet.payload.size = 280 := by
    rw [Payload.size, List.length_replicate]
  obtain ⟨header, payload, hsent, hhanded⟩ :=
    send_losesNothing.1 packet g { rxRadios := 1 } rfl (by decide) (hsize.symm ▸ htakes)
  have hlength : (header.bytes ++ payload).length = 280 := hhanded.length_eq.trans hsize
  exact ⟨htakes, header, payload, hsent, hhanded, hlength⟩

end Gateway

end LoraConcentrator
