import LoraConcentrator.Proofs.Link.Waiting

/-!
# What a frame leaves behind

Nothing marks the start of a frame, so the next one starts where the reader of this one stopped.
Where that is follows from what has arrived: the time-outs that a wait outlasts, then bytes, then
the rest (`Link.Brings`). Either there are as many bytes as are read of a frame with such a start
(`Frame.extent`), and what comes after them is left, or the rest begins with what stops the reader,
and that is taken as well.

Main statement: the outcome of reading a frame into a buffer, and what is left to read, for every
buffer and whatever arrives (`LinkM.receiveInto_delivers`).
-/

namespace LoraConcentrator

open Program

/-! ### Starts of frames -/

theorem Header.frameLength_ofBytes (id high low tag : UInt8) :
    (ofBytes id high low tag).frameLength = byteCount + (256 * high.toNat + low.toNat) := by
  rw [frameLength, ofBytes, BigEndian.toNat_decode16, Nat.mul_comm]

namespace Frame

variable {capacity : Nat} {bs : Bytes}

/-- A start of a frame that is not all that is read goes on with any byte. -/
theorem length_concat_le_extent (h : bs.length < extent capacity bs) (b : UInt8) :
    (bs ++ [b]).length ≤ extent capacity (bs ++ [b]) := by
  match bs, h with
  | [], _ | [_], _ | [_, _], _ => simp [extent, Header.byteCount]
  | [id, high, low], _ =>
    show Header.byteCount ≤ if _ then _ else _
    split
    · exact Nat.le_add_right _ _
    · exact Nat.le_refl _
  | id :: high :: low :: tag :: payload, h =>
    rw [List.length_append]
    exact h

/-- Of a frame either all is read, or just the header. -/
theorem exists_of_length_eq_extent (h : bs.length = extent capacity bs) :
    (∃ id high low tag, bs = [id, high, low, tag] ∧
      capacity < (Header.ofBytes id high low tag).frameLength) ∨
    ∃ id high low tag payload, bs = id :: high :: low :: tag :: payload ∧
      (Header.ofBytes id high low tag).frameLength = Header.byteCount + payload.length ∧
        Header.byteCount + payload.length ≤ capacity := by
  match bs, h with
  | [], h | [_], h | [_, _], h | [_, _, _], h => cases h
  | id :: high :: low :: tag :: payload, h =>
    have hlength : (id :: high :: low :: tag :: payload).length =
        Header.byteCount + payload.length := by
      rw [Header.byteCount]
      simp only [List.length_cons]
      omega
    rw [hlength] at h
    by_cases hfits : (Header.ofBytes id high low tag).frameLength ≤ capacity
    · rw [extent, if_pos hfits] at h
      exact .inr ⟨id, high, low, tag, payload, rfl, h.symm, h ▸ hfits⟩
    · rw [extent, if_neg hfits] at h
      obtain rfl := List.length_eq_zero_iff.1 (Nat.add_left_cancel h)
      exact .inl ⟨id, high, low, tag, rfl, Nat.lt_of_not_le hfits⟩

end Frame

/-! ### What a link brings -/

namespace Link

variable {timeout : Duration} {link : Link} {bs : Bytes} {rest : List Arrival}

/-- A link brings bytes and then the rest, after the reads that time out before a wait is over. -/
def Brings (timeout : Duration) (bs : Bytes) (rest : List Arrival) (link : Link) : Prop :=
  ∃ waits, link.incoming = waits ++ (bs.map .byte ++ rest) ∧ Arrival.Outlasted timeout waits ∧
    ∀ a ∈ (bs.map Arrival.byte ++ rest).head?, ¬ Arrival.Outlasted timeout (waits ++ [a])

/-- A wait outlasts some of the first arrivals, and no more than these. -/
theorem exists_outlasted (timeout : Duration) (arrivals : List Arrival) :
    ∃ waits rest, arrivals = waits ++ rest ∧ Arrival.Outlasted timeout waits ∧
      ∀ a ∈ rest.head?, ¬ Arrival.Outlasted timeout (waits ++ [a]) := by
  suffices h : ∀ rest waits, Arrival.Outlasted timeout waits → ∃ more rest', rest = more ++ rest' ∧
      Arrival.Outlasted timeout (waits ++ more) ∧
        ∀ a ∈ rest'.head?, ¬ Arrival.Outlasted timeout (waits ++ more ++ [a]) from
    h arrivals [] ⟨List.forall_mem_nil _, fun hne ↦ absurd rfl hne⟩
  intro rest
  induction rest with
  | nil =>
    intro waits hwaits
    refine ⟨[], [], rfl, ?_, fun a ha ↦ absurd ha (by simp)⟩
    rwa [List.append_nil]
  | cons a rest ih =>
    intro waits hwaits
    by_cases ha : Arrival.Outlasted timeout (waits ++ [a])
    · obtain ⟨more, rest', rfl, hmore, hmaximal⟩ := ih (waits ++ [a]) ha
      rw [List.append_assoc] at hmore hmaximal
      exact ⟨a :: more, rest', rfl, hmore, hmaximal⟩
    · refine ⟨[], a :: rest, rfl, ?_, ?_⟩
      · rwa [List.append_nil]
      · intro b hb
        obtain rfl := Option.some.inj hb
        rwa [List.append_nil]

/-- Of the first arrivals as many are bytes as are read of a frame, or those that are end with what
stops the reader. By induction on what has arrived, with the start of the frame before it. -/
theorem exists_start (capacity : Nat) (idle : Idle) (arrivals : List Arrival) :
    ∃ bs rest, arrivals = bs.map .byte ++ rest ∧
      (bs.length = Frame.extent capacity bs ∨ bs.length < Frame.extent capacity bs ∧
        ∃ e, (rest.headD idle.arrival).error? = some e) := by
  suffices h : ∀ rest start, start.length ≤ Frame.extent capacity start →
      ∃ more rest', rest = more.map .byte ++ rest' ∧
        ((start ++ more).length = Frame.extent capacity (start ++ more) ∨
          (start ++ more).length < Frame.extent capacity (start ++ more) ∧
            ∃ e, (rest'.headD idle.arrival).error? = some e) from
    h arrivals [] (Nat.zero_le _)
  intro rest
  induction rest with
  | nil =>
    intro start hstart
    refine ⟨[], [], rfl, ?_⟩
    rw [List.append_nil]
    exact (Nat.eq_or_lt_of_le hstart).imp_right
      (⟨·, Arrival.byte?_eq_none_iff.1 idle.byte?_arrival⟩)
  | cons a rest ih =>
    intro start hstart
    rcases Nat.eq_or_lt_of_le hstart with heq | hlt
    · refine ⟨[], a :: rest, rfl, .inl ?_⟩
      rwa [List.append_nil]
    rcases ha : a.byte? with - | b
    · refine ⟨[], a :: rest, rfl, .inr ?_⟩
      rw [List.append_nil]
      exact ⟨hlt, Arrival.byte?_eq_none_iff.1 ha⟩
    · obtain rfl := Arrival.eq_of_byte? ha
      obtain ⟨more, rest', rfl, hmore⟩ := ih (start ++ [b]) (Frame.length_concat_le_extent hlt b)
      rw [List.append_assoc] at hmore
      exact ⟨b :: more, rest', rfl, hmore⟩

/-- Every link brings such a start of a frame. -/
theorem exists_brings (timeout : Duration) (capacity : Nat) (link : Link) :
    ∃ bs rest, Brings timeout bs rest link ∧
      (bs.length = Frame.extent capacity bs ∨ bs.length < Frame.extent capacity bs ∧
        ∃ e, (rest.headD link.idle.arrival).error? = some e) := by
  obtain ⟨waits, arrivals, hin, hwaits, hmaximal⟩ := exists_outlasted timeout link.incoming
  obtain ⟨bs, rest, rfl, hstart⟩ := exists_start capacity link.idle arrivals
  exact ⟨bs, rest, ⟨waits, hin, hwaits, hmaximal⟩, hstart⟩

end Link

namespace LinkM

open Link

variable {timeout : Duration} {link : Link} {buffer : Bytes} {rest : List Arrival}

/-- The payload of a frame that does not fit is left. -/
theorem receiveInto_of_too_large {id high low tag : UInt8}
    (hroom : Header.byteCount ≤ buffer.length) (h : Brings timeout [id, high, low, tag] rest link)
    (hlarge : buffer.length < (Header.ofBytes id high low tag).frameLength) :
    ∃ link', receiveInto buffer timeout link =
        .error (.replyTooLarge (Header.ofBytes id high low tag).frameLength buffer.length) link' ∧
      link'.incoming = rest := by
  obtain ⟨waits, hin, hwaits, -⟩ := h
  obtain ⟨next, hframe, hnext, -⟩ := receiveFrame_of_byte hroom hin hwaits
  obtain ⟨link', hafter, hrest⟩ := receiveAfter_of_too_large hlarge hnext
  exact ⟨link', bind_of_error (hframe.trans hafter), hrest⟩

/-- A frame that fits is read over the start of the buffer, whose other bytes stay. -/
theorem receiveInto_of_whole {id high low tag : UInt8} {payload : Bytes}
    (h : Brings timeout (id :: high :: low :: tag :: payload) rest link)
    (hlen : payload.length = (BigEndian.decode16 high low).toNat)
    (hfits : Header.byteCount + payload.length ≤ buffer.length) :
    ∃ filled link',
      receiveInto buffer timeout link = .ok (Header.byteCount + payload.length, filled) link' ∧
        link'.incoming = rest ∧
          filled.take (Header.byteCount + payload.length) = id :: high :: low :: tag :: payload ∧
            filled.drop (Header.byteCount + payload.length) =
              buffer.drop (Header.byteCount + payload.length) := by
  obtain ⟨waits, hin, hwaits, -⟩ := h
  obtain ⟨next, hframe, hnext, -⟩ :=
    receiveFrame_of_byte (Nat.le_trans (Nat.le_add_right _ _) hfits) hin hwaits
  obtain ⟨link', hafter, hrest⟩ := receiveAfter_of_incoming hlen hfits hnext
  have hlength : (id :: high :: low :: tag :: payload).length =
      Header.byteCount + payload.length := by
    rw [Header.byteCount]
    simp only [List.length_cons]
    omega
  rw [← hlength]
  exact ⟨_, link', bind_of_ok (hframe.trans hafter), hrest, List.take_left, List.drop_left⟩

/-- A frame that is cut short fails with what cuts it, and that is taken as well. -/
theorem receiveInto_of_stop {bs : Bytes} {stop : List Arrival} {e : Error}
    (hroom : Header.byteCount ≤ buffer.length) (h : Brings timeout bs stop link)
    (hcut : bs.length < Frame.extent buffer.length bs)
    (hstop : (stop.headD link.idle.arrival).error? = some e) :
    ∃ link', receiveInto buffer timeout link = .error e link' ∧ link'.incoming = stop.tail := by
  obtain ⟨waits, hin, hwaits, hmaximal⟩ := h
  match bs, stop with
  | b :: bs, stop =>
    obtain ⟨link', hframe, hrest, -⟩ := receiveFrame_of_cut hroom hin hwaits hcut hstop
    exact ⟨link', bind_of_error hframe, hrest⟩
  | [], a :: stop =>
    obtain ⟨link', hframe, hrest, -⟩ :=
      receiveFrame_of_end hroom hin hwaits (hmaximal a rfl) hstop
    exact ⟨link', bind_of_error hframe, hrest⟩
  | [], [] =>
    obtain rfl : link.incoming = waits := hin.trans (List.append_nil _)
    obtain ⟨link', hframe, hrest⟩ := receiveFrame_of_idle hroom hwaits hstop
    exact ⟨link', bind_of_error hframe, hrest⟩

/-- The outcome of reading a frame into a buffer, and where the next frame starts.

A buffer without room for a header is not read into. Otherwise the time-outs that the wait outlasts
are followed by bytes. If the first four of them announce a frame that does not fit, these four are
taken; if the frame fits and is there, just its bytes are taken, which fill the start of the buffer
and are parsed as that frame; and if it is cut short, reading fails with what cuts it, which is
taken as well. One of these is the case. -/
theorem receiveInto_delivers (buffer : Bytes) (timeout : Duration) (link : Link) :
    (buffer.length < 4 →
      receiveInto buffer timeout link = .error (.replyTooLarge 4 buffer.length) link) ∧
    (4 ≤ buffer.length →
      (∀ id high low tag rest, Brings timeout [id, high, low, tag] rest link →
        buffer.length < 4 + (256 * high.toNat + low.toNat) →
          ∃ link', receiveInto buffer timeout link =
            .error (.replyTooLarge (4 + (256 * high.toNat + low.toNat)) buffer.length) link' ∧
              link'.incoming = rest) ∧
      (∀ id high low tag payload rest,
        Brings timeout (id :: high :: low :: tag :: payload) rest link →
          payload.length = 256 * high.toNat + low.toNat → 4 + payload.length ≤ buffer.length →
            ∃ filled link',
              receiveInto buffer timeout link = .ok (4 + payload.length, filled) link' ∧
                link'.incoming = rest ∧
                  filled.take (4 + payload.length) = id :: high :: low :: tag :: payload ∧
                    filled.drop (4 + payload.length) = buffer.drop (4 + payload.length) ∧
                      Frame.parse (filled.take (4 + payload.length)) =
                        .ok ⟨⟨id, UInt16.ofNat payload.length, tag⟩, payload⟩) ∧
      (∀ bs stop e, Brings timeout bs stop link → bs.length < Frame.extent buffer.length bs →
        (stop.headD link.idle.arrival).error? = some e →
          ∃ link', receiveInto buffer timeout link = .error e link' ∧
            link'.incoming = stop.tail) ∧
      ∃ bs rest, Brings timeout bs rest link ∧
        ((∃ id high low tag, bs = [id, high, low, tag] ∧
            buffer.length < 4 + (256 * high.toNat + low.toNat)) ∨
          (∃ id high low tag payload, bs = id :: high :: low :: tag :: payload ∧
            payload.length = 256 * high.toNat + low.toNat ∧ 4 + payload.length ≤ buffer.length) ∨
          bs.length < Frame.extent buffer.length bs ∧
            ∃ e, (rest.headD link.idle.arrival).error? = some e)) := by
  refine ⟨fun hroom ↦ bind_of_error (receiveFrame_of_lt hroom timeout link),
    fun hroom ↦ ⟨?_, ?_, ?_, ?_⟩⟩
  · intro id high low tag rest h hlarge
    have hlength := Header.frameLength_ofBytes id high low tag
    have hfails := receiveInto_of_too_large hroom h (hlength ▸ hlarge)
    rwa [hlength] at hfails
  · intro id high low tag payload rest h hlen hfits
    have hsize : payload.length = (BigEndian.decode16 high low).toNat := by
      rw [BigEndian.toNat_decode16, hlen, Nat.mul_comm]
    obtain ⟨filled, link', hread, hrest, htake, hdrop⟩ := receiveInto_of_whole h hsize hfits
    refine ⟨filled, link', hread, hrest, htake, hdrop, ?_⟩
    have hheader : (⟨id, UInt16.ofNat payload.length, tag⟩ : Header) =
        Header.ofBytes id high low tag := by
      rw [Header.ofBytes, hsize, UInt16.ofNat_toNat]
    have hbytes : id :: high :: low :: tag :: payload =
        (Header.ofBytes id high low tag).bytes ++ payload := by
      rw [Header.bytes_ofBytes]
      rfl
    rw [hheader]
    exact (congrArg Frame.parse (htake.trans hbytes)).trans (Frame.parse_of_length_eq hsize)
  · intro bs stop e h hcut hstop
    exact receiveInto_of_stop hroom h hcut hstop
  · obtain ⟨bs, rest, hbrings, hstart⟩ := exists_brings timeout buffer.length link
    refine ⟨bs, rest, hbrings, ?_⟩
    rcases hstart with hread | hcut
    · rcases Frame.exists_of_length_eq_extent hread with
        ⟨id, high, low, tag, rfl, hlarge⟩ | ⟨id, high, low, tag, payload, rfl, hlen, hfits⟩
      · rw [Header.frameLength_ofBytes] at hlarge
        exact .inl ⟨id, high, low, tag, rfl, hlarge⟩
      · rw [Header.frameLength_ofBytes] at hlen
        exact .inr (.inl ⟨id, high, low, tag, payload, rfl, (Nat.add_left_cancel hlen).symm, hfits⟩)
    · exact .inr (.inr hcut)

/-- A device that answers with one byte after a second, and then ends the stream. -/
def oneByteReply : Link where
  incoming := .failure timedOut (.ofMillis 1000) :: [5, 0, 1, 0x40, 9].map .byte ++ [.endOfFile]

/-- The reply with one byte is read over the start of a buffer of six, and the end of the stream is
left. -/
theorem receiveInto_delivers_oneByteReply :
    ∃ link', receiveInto [1, 2, 3, 4, 5, 6] (.ofMillis 2000) oneByteReply =
        .ok (5, [5, 0, 1, 0x40, 9, 6]) link' ∧
      link'.incoming = [.endOfFile] := by
  have hbrings : Brings (.ofMillis 2000) [5, 0, 1, 0x40, 9] [.endOfFile] oneByteReply :=
    ⟨[.failure timedOut (.ofMillis 1000)], rfl, by decide, by decide⟩
  obtain ⟨-, hwhole, -⟩ :=
    (receiveInto_delivers [1, 2, 3, 4, 5, 6] (.ofMillis 2000) oneByteReply).2 (by decide)
  obtain ⟨filled, link', hread, hrest, htake, hdrop, -⟩ :=
    hwhole 5 0 1 0x40 [9] [.endOfFile] hbrings (by decide) (by decide)
  refine ⟨link', ?_, hrest⟩
  have hfilled : filled = [5, 0, 1, 0x40, 9] ++ [6] := by
    rw [← List.take_append_drop (4 + [(9 : UInt8)].length) filled, htake, hdrop]
    rfl
  rw [hread, hfilled]
  rfl

end LinkM

end LoraConcentrator
