import LoraConcentrator.Proofs.Link.Framing

/-!
# Streams of requests

The host writes the frames of its requests one after the other with nothing between them
(`Request.stream`), and the device cuts the bytes it receives into frames again, by their size
fields alone. `LinkM.readRequests` is that other end of the link: it reads frame after frame into
one buffer, looks the tag up and takes the payload apart.

Main statement: whatever is written is read back, request by request and byte for byte, however the
link serves it and whatever the buffers held before (`readRequests_stream`). Nothing is lost by a
request that has no frame, since there is just one, the reset of a radio that no board has.
-/

namespace LoraConcentrator

namespace Request

/-! ### What the host writes -/

/-- The frames of numbered requests, one after the other. -/
def stream : List (UInt8 × Request) → Except Error Bytes
  | [] => .ok []
  | (id, r) :: requests => do
    let bs ← r.frame id
    return bs ++ (← stream requests)

/-- The bytes of requests are the frame of the first one and the bytes of the others. -/
theorem stream_cons_eq_ok_iff {id : UInt8} {r : Request} {requests : List (UInt8 × Request)}
    {bs : Bytes} :
    stream ((id, r) :: requests) = .ok bs ↔
      ∃ first rest, r.frame id = .ok first ∧ stream requests = .ok rest ∧ bs = first ++ rest := by
  rw [stream]
  simp only [Program.except_bind_eq_ok_iff]
  constructor
  · rintro ⟨first, hfirst, rest, hrest, h⟩
    exact ⟨first, rest, hfirst, hrest, (Except.ok.inj h).symm⟩
  · rintro ⟨first, rest, hfirst, hrest, rfl⟩
    exact ⟨first, hfirst, rest, hrest, rfl⟩

/-- Whether a request can be written: it does not reset a radio that no board has. -/
def isWritable : Request → Bool
  | reset (.rx radio) => decide (radio.toNat < 3)
  | _ => true

/-- A request that can be written has a payload. -/
theorem exists_payload {r : Request} (h : r.isWritable) : ∃ bs, r.payload = .ok bs := by
  cases hp : r.payload with
  | ok bs => exact ⟨bs, rfl⟩
  | error e =>
    obtain ⟨radio, rfl, hle, -⟩ := payload_eq_error_iff.1 hp
    exact absurd (of_decide_eq_true h) (Nat.not_lt_of_le hle)

/-- A request that can be written has a frame under every id. -/
theorem exists_frame {r : Request} (h : r.isWritable) (id : UInt8) : ∃ bs, r.frame id = .ok bs := by
  obtain ⟨payload, hp⟩ := exists_payload h
  exact ⟨_, frame_eq_ok_iff.2 ⟨payload, hp, rfl⟩⟩

/-- Requests that can be written have bytes. -/
theorem exists_stream {requests : List (UInt8 × Request)} (h : ∀ p ∈ requests, p.2.isWritable) :
    ∃ bs, stream requests = .ok bs := by
  induction requests with
  | nil => exact ⟨[], rfl⟩
  | cons p requests ih =>
    obtain ⟨id, r⟩ := p
    obtain ⟨first, hfirst⟩ := exists_frame (h (id, r) List.mem_cons_self) id
    obtain ⟨rest, hrest⟩ := ih fun q hq ↦ h q (List.mem_cons_of_mem _ hq)
    exact ⟨_, stream_cons_eq_ok_iff.2 ⟨first, rest, hfirst, hrest, rfl⟩⟩

end Request

namespace LinkM

/-! ### What the device reads -/

/-- Reads a frame over the start of a buffer and takes the request in it apart: the request with its
id, and the buffer afterwards. -/
def readRequest (buffer : Bytes) (timeout : Duration) :
    LinkM ((UInt8 × Request) × Bytes) := do
  let (length, buffer) ← receiveInto buffer timeout
  let frame ← ofExcept (Frame.parse (buffer.take length))
  let code ← ofExcept (RequestCode.ofCode frame.header.tag)
  let request ← ofExcept (Request.ofPayload code frame.payload)
  return ((frame.header.id, request), buffer)

/-- Reads requests one after the other into the same buffer. -/
def readRequests (timeout : Duration) :
    (count : Nat) → (buffer : Bytes) → LinkM (List (UInt8 × Request))
  | 0, _ => return []
  | count + 1, buffer => do
    let (first, buffer) ← readRequest buffer timeout
    let rest ← readRequests timeout count buffer
    return first :: rest

variable {link : Link} {bs buffer : Bytes} {rest : List Arrival}

/-- A frame that has arrived is read over the start of the buffer, whose other bytes stay. -/
theorem receiveInto_of_incoming (timeout : Duration) (hframe : IsFrame bs)
    (hfits : bs.length ≤ buffer.length) (h : link.incoming = bs.map .byte ++ rest) :
    ∃ link', receiveInto buffer timeout link =
      .ok (bs.length, bs ++ buffer.drop bs.length) link' ∧ link'.incoming = rest := by
  obtain ⟨link', hread, hin⟩ := receiveFrame_of_incoming timeout hframe hfits h
  exact ⟨link', Program.bind_eq_ok_iff.2 ⟨bs, link', hread, rfl⟩, hin⟩

/-- A request whose frame has arrived is read with its id. -/
theorem readRequest_of_incoming (timeout : Duration) {id : UInt8} {r : Request}
    (hframe : r.frame id = .ok bs) (hbuffer : buffer.length = 500)
    (h : link.incoming = bs.map .byte ++ rest) :
    ∃ buffer' link', buffer'.length = 500 ∧
      readRequest buffer timeout link = .ok ((id, r), buffer') link' ∧ link'.incoming = rest := by
  obtain ⟨payload, hp, hbs⟩ := Request.frame_eq_ok_iff.1 hframe
  have hlen : payload.length ≤ 276 := Request.length_payload_le hp
  have hbslen : bs.length = 4 + payload.length := by
    rw [hbs, List.length_append, Header.length_bytes, Header.byteCount]
  obtain ⟨link', hread, hin⟩ := receiveInto_of_incoming timeout (Request.isFrame_of_frame hframe)
    (show bs.length ≤ buffer.length by omega) h
  have hsize := Request.toNat_size_header id r
    (show payload.length ≤ requestCapacity by rw [requestCapacity]; omega)
  have hparse : Frame.parse ((bs ++ buffer.drop bs.length).take bs.length) =
      .ok ⟨Request.header id r payload, payload⟩ := by
    rw [List.take_left, hbs]
    exact Frame.parse_of_length_eq hsize.symm
  refine ⟨bs ++ buffer.drop bs.length, link', ?_, ?_, hin⟩
  · rw [List.length_append, List.length_drop]
    omega
  · refine Program.bind_eq_ok_iff.2 ⟨_, link', hread, Program.bind_eq_ok_iff.2 ⟨_, link',
      ofExcept_eq_ok_iff.2 ⟨hparse, rfl⟩, Program.bind_eq_ok_iff.2 ⟨r.code, link',
      ofExcept_eq_ok_iff.2 ⟨?_, rfl⟩, Program.bind_eq_ok_iff.2 ⟨r, link',
      ofExcept_eq_ok_iff.2 ⟨Request.ofPayload_payload hp, rfl⟩, rfl⟩⟩⟩⟩
    show orFail (RequestCode.ofCode? r.code.code) _ = _
    rw [RequestCode.ofCode?_code]
    rfl

/-- Requests whose frames have arrived are read in order, and nothing after them is touched. -/
theorem readRequests_of_incoming (timeout : Duration) {requests : List (UInt8 × Request)}
    (hstream : Request.stream requests = .ok bs) (hbuffer : buffer.length = 500)
    (h : link.incoming = bs.map .byte ++ rest) :
    ∃ link', readRequests timeout requests.length buffer link = .ok requests link' ∧
      link'.incoming = rest := by
  induction requests generalizing bs buffer link with
  | nil =>
    cases hstream
    exact ⟨link, rfl, h⟩
  | cons p requests ih =>
    obtain ⟨id, r⟩ := p
    obtain ⟨first, others, hfirst, hothers, rfl⟩ := Request.stream_cons_eq_ok_iff.1 hstream
    rw [List.map_append, List.append_assoc] at h
    obtain ⟨buffer', link₁, hbuffer', hread, hin⟩ :=
      readRequest_of_incoming timeout hfirst hbuffer h
    obtain ⟨link', hreads, hin'⟩ := ih hothers hbuffer' hin
    exact ⟨link', Program.bind_eq_ok_iff.2 ⟨_, link₁, hread, Program.bind_eq_ok_iff.2
      ⟨requests, link', hreads, rfl⟩⟩, hin'⟩

/-! ### Round trip -/

/-- A frame at the front of a byte string shows its request, its id and what follows. -/
theorem frame_append_inj {id id' : UInt8} {r r' : Request} {bs bs' rest rest' : Bytes}
    (hframe : r.frame id = .ok bs) (hframe' : r'.frame id' = .ok bs')
    (h : bs ++ rest = bs' ++ rest') : (id, r) = (id', r') ∧ rest = rest' := by
  -- the device reads either request off one and the same link
  have hbuffer : (List.replicate 500 (0 : UInt8)).length = 500 := List.length_replicate
  have hin : ({ incoming := (bs ++ rest).map .byte } : Link).incoming =
      bs.map .byte ++ rest.map .byte := List.map_append
  have hin' : ({ incoming := (bs ++ rest).map .byte } : Link).incoming =
      bs'.map .byte ++ rest'.map .byte := by
    rw [h]
    exact List.map_append
  obtain ⟨_, link₁, -, hread, hrest⟩ := readRequest_of_incoming ⟨0⟩ hframe hbuffer hin
  obtain ⟨_, link₂, -, hread', hrest'⟩ := readRequest_of_incoming ⟨0⟩ hframe' hbuffer hin'
  rw [hread] at hread'
  cases hread'
  refine ⟨rfl, ?_⟩
  exact List.map_injective_iff.2 (fun _ _ ↦ Arrival.byte.inj) (hrest.symm.trans hrest')

/-- The bytes written show the requests and their ids. -/
theorem stream_injective {requests requests' : List (UInt8 × Request)} {bs : Bytes}
    (h : Request.stream requests = .ok bs) (h' : Request.stream requests' = .ok bs) :
    requests = requests' := by
  induction requests generalizing requests' bs with
  | nil =>
    cases h
    match requests', h' with
    | [], _ => rfl
    | (id, r) :: requests', h' =>
      obtain ⟨first, rest, hfirst, -, hbs⟩ := Request.stream_cons_eq_ok_iff.1 h'
      exact absurd (List.append_eq_nil_iff.1 hbs.symm).1 (Request.isFrame_of_frame hfirst).ne_nil
  | cons p requests ih =>
    obtain ⟨id, r⟩ := p
    obtain ⟨first, rest, hfirst, hrest, rfl⟩ := Request.stream_cons_eq_ok_iff.1 h
    match requests', h' with
    | [], h' =>
      cases (List.append_eq_nil_iff.1 (Except.ok.inj h').symm).1
      exact absurd rfl (Request.isFrame_of_frame hfirst).ne_nil
    | (id', r') :: requests', h' =>
      obtain ⟨first', rest', hfirst', hrest', hbs⟩ := Request.stream_cons_eq_ok_iff.1 h'
      obtain ⟨hp, rfl⟩ := frame_append_inj hfirst hfirst' hbs
      rw [hp, ih hrest hrest']

/-- What the host writes is what the device reads. Every request that can be written fills the
request buffer, whatever that held, with a payload that has a frame; and the frames of any number of
requests, one after the other, are read back in order from any link that delivers them, with
nothing left over and nothing after them touched. A request that cannot be written is the reset of a
radio that no board has, and leaves the request buffer empty. -/
theorem readRequests_stream (requests : List (UInt8 × Request))
    (hwritable : ∀ p ∈ requests, p.2.isWritable) :
    (∀ p ∈ requests, ∃ payload bs, (∀ held, p.2.fill held = (.ok (), payload)) ∧
      payload.length ≤ 276 ∧ requestFrame p.1 p.2.code payload = .ok bs ∧
      p.2.frame p.1 = .ok bs) ∧
    (∃ bs, Request.stream requests = .ok bs ∧
      ∀ (link : Link) (rest : List Arrival) (buffer : Bytes) (timeout : Duration),
        buffer.length = 500 → link.incoming = bs.map .byte ++ rest →
        ∃ link', readRequests timeout requests.length buffer link = .ok requests link' ∧
          link'.incoming = rest) ∧
    ∀ (r : Request) (held left : Bytes) (e : Error),
      r.fill held = (.error e, left) ↔
        ∃ radio : UInt8, r = .reset (.rx radio) ∧ 3 ≤ radio.toNat ∧
          e = .invalidChannel radio 3 ∧ left = [] := by
  refine ⟨?_, ?_, ?_⟩
  · intro p hp
    obtain ⟨payload, hpayload⟩ := Request.exists_payload (hwritable p hp)
    obtain ⟨bs, hbs⟩ := Request.exists_frame (hwritable p hp) p.1
    refine ⟨payload, bs, ?_, Request.length_payload_le hpayload, ?_, hbs⟩
    · intro held
      rw [Request.fill_eq, hpayload]
    · rw [← hbs, Request.frame, hpayload]
      rfl
  · obtain ⟨bs, hbs⟩ := Request.exists_stream hwritable
    exact ⟨bs, hbs, fun _ _ _ timeout hbuffer h ↦
      readRequests_of_incoming timeout hbs hbuffer h⟩
  · intro r held left e
    rw [Request.fill_eq]
    cases hp : r.payload with
    | ok payload =>
      constructor
      · intro h
        cases h
      · rintro ⟨radio, hr, hle, -, -⟩
        have := Request.payload_eq_error_iff.2 ⟨radio, hr, hle, rfl⟩
        rw [hp] at this
        cases this
    | error e' =>
      constructor
      · intro h
        cases h
        obtain ⟨radio, hr, hle, he⟩ := Request.payload_eq_error_iff.1 hp
        exact ⟨radio, hr, hle, he, rfl⟩
      · rintro ⟨radio, hr, hle, rfl, rfl⟩
        have := Request.payload_eq_error_iff.2 ⟨radio, hr, hle, rfl⟩
        rw [hp] at this
        cases this
        rfl

/-- Requests of every layout, one of them with a payload of a single byte. -/
def mixedRequests : List (UInt8 × Request) :=
  [(0x40, .ping), (0xE8, .configRx ((RxChannel.mk true 2403000000 .khz800 .sf12 ⟨0⟩ 0x21).setup 1)),
    (0x6E, .prepareTx (TxPacket.setup { power := -3, payload := ⟨[0xFF], by decide⟩ })),
    (0x17, .reset (.rx 2)), (0xD6, .setRssiCoefficient 0 ⟨0x7FC00000⟩),
    (0x09, .readRegister 2 0x0889), (0x3A, .writeRegister 2 0x0889 0xA0)]

/-- The statement at `mixedRequests` on a link whose reads serve one byte, then two, then three. -/
theorem readRequests_stream_mixedRequests :
    (∀ p ∈ mixedRequests, p.2.isWritable) ∧
    ∃ bs, Request.stream mixedRequests = .ok bs ∧
      ∃ link', readRequests (.ofMillis 10) mixedRequests.length (List.replicate 500 0xAA)
        { incoming := bs.map .byte, readLimit := fun n ↦ n % 3 + 1 } = .ok mixedRequests link' ∧
          link'.incoming = [] := by
  have hwritable : ∀ p ∈ mixedRequests, p.2.isWritable := by decide
  obtain ⟨bs, hbs, hread⟩ := (readRequests_stream mixedRequests hwritable).2.1
  exact ⟨hwritable, bs, hbs, hread _ [] _ _ List.length_replicate (List.append_nil _).symm⟩

end LinkM

end LoraConcentrator
