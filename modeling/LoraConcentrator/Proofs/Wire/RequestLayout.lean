import LoraConcentrator.Proofs.Wire.Fields
import LoraConcentrator.Proofs.Wire.Frame

/-!
# Layouts of requests

What the reader of request payloads accepts, said by positions in the byte string and apart from the
reader and from the writer. Every request has a layout of fixed length, except that byte 20 of a
packet to send announces how many bytes follow it (`Request.layoutSize`). A byte string that holds
the layout of its code is a request, unless it resets what no code names; nothing after the layout
matters. Written again, the request gives the bytes of its layout as they were, only that the bytes
with a truth value become zero or one (`Request.IsCanonical`).

Main statement: this is all that the reader accepts, and a payload that is too short is refused
with the length that it misses (`Request.ofPayload_readsLayout`). Hence the two ends of the link
agree on every layout, and the reader looks at no byte beyond the ones it has asked for.
-/

namespace LoraConcentrator

namespace ResetTarget

/-- The bytes above five name nothing. -/
theorem ofCode?_eq_none_iff {n : UInt8} : ofCode? n = none ↔ 5 < n.toNat := by
  constructor
  · intro h
    have hcode : ∀ k ≤ 5, ofCode? (UInt8.ofNat k) ≠ none := by decide
    refine Nat.lt_of_not_le fun hle ↦ hcode n.toNat hle ?_
    rw [UInt8.ofNat_toNat, h]
  · intro h
    have hne : ∀ k : UInt8, k.toNat ≤ 5 → n ≠ k := by
      rintro _ hk rfl
      exact Nat.not_lt_of_le hk h
    rw [ofCode?, if_neg (by rw [rxChannelCount]; omega), if_neg (hne 3 (by decide)),
      if_neg (hne 4 (by decide)), if_neg (hne 5 (by decide))]

end ResetTarget

namespace Request

open BigEndian

/-- The bytes that the layout of a request takes: for a packet to send, as many as byte 20 says
after the fixed part. -/
def layoutSize (code : RequestCode) (bs : Bytes) : Nat :=
  match code with
  | .prepareTx => fixedSize .prepareTx + (byteAt bs 20).toNat
  | code => fixedSize code

/-- The places of the bytes that hold a truth value. -/
def flagPlaces : RequestCode → List Nat
  | .configRx => [9]
  | .prepareTx => [12, 14, 15]
  | _ => []

/-- A byte string holds the layout of its code. -/
structure HoldsLayout (code : RequestCode) (bs : Bytes) : Prop where
  fixed_le : fixedSize code ≤ bs.length
  layout_le : layoutSize code bs ≤ bs.length

/-- A byte string is a request with its code: it holds the layout and, if it resets something, names
what by a code. -/
structure WellFormed (code : RequestCode) (bs : Bytes) : Prop extends HoldsLayout code bs where
  target_le : code = .reset → (byteAt bs 0).toNat ≤ 5

/-- The byte of a truth value as it is written: one for every value but zero. -/
def truthByte (b : UInt8) : UInt8 := if b = 0 then 0 else 1

/-- What the request in `bs` is written as: its layout, with zero or one for each truth value. -/
structure IsCanonical (code : RequestCode) (bs out : Bytes) : Prop where
  length_eq : out.length = layoutSize code bs
  getElem?_eq : ∀ i < layoutSize code bs, i ∉ flagPlaces code → out[i]? = bs[i]?
  getElem?_flag_eq : ∀ i ∈ flagPlaces code, out[i]? = bs[i]?.map truthByte

/-! ### The canonical form -/

/-- A byte that was read as a truth value is written as the byte of this value. -/
theorem flag_eq_truthByte (b : UInt8) : flag (b != 0) = truthByte b := by
  by_cases h : b = 0
  · rw [h]
    rfl
  · rw [bne_iff_ne.2 h, truthByte, if_neg h]
    rfl

theorem truthByte_truthByte (b : UInt8) : truthByte (truthByte b) = truthByte b := by
  rw [← flag_eq_truthByte b, ← flag_eq_truthByte, flag_ne_zero]

/-- The layout of a byte string with its truth values written as zero or one. -/
def canonical (code : RequestCode) (bs : Bytes) : Bytes :=
  (flagPlaces code).foldl (fun out i ↦ out.modify i truthByte) (bs.take (layoutSize code bs))

section Modify

variable {places : List Nat} {bs : Bytes} {i : Nat}

/-- No byte is added or lost when some of them are made truth bytes. -/
theorem length_foldl_modify :
    (places.foldl (fun out i ↦ out.modify i truthByte) bs).length = bs.length := by
  induction places generalizing bs with
  | nil => rfl
  | cons place places ih => rw [List.foldl_cons, ih, List.length_modify]

/-- Bytes at other places stay as they are. -/
theorem getElem?_foldl_modify_of_notMem (h : i ∉ places) :
    (places.foldl (fun out i ↦ out.modify i truthByte) bs)[i]? = bs[i]? := by
  induction places generalizing bs with
  | nil => rfl
  | cons place places ih =>
    obtain ⟨hne, hnot⟩ := not_or.1 (mt List.mem_cons.2 h)
    rw [List.foldl_cons, ih hnot, List.getElem?_modify_ne _ _ (Ne.symm hne)]

/-- A place that is changed more than once is as if it were changed once. -/
theorem getElem?_foldl_modify_of_mem (h : i ∈ places) :
    (places.foldl (fun out i ↦ out.modify i truthByte) bs)[i]? = bs[i]?.map truthByte := by
  induction places generalizing bs with
  | nil => exact absurd h List.not_mem_nil
  | cons place places ih =>
    rw [List.foldl_cons]
    by_cases hi : i = place
    · subst hi
      by_cases hmem : i ∈ places
      · rw [ih hmem, List.getElem?_modify_eq, Option.map_eq_map, Option.map_map]
        exact congrArg (Option.map · bs[i]?) (funext truthByte_truthByte)
      · rw [getElem?_foldl_modify_of_notMem hmem, List.getElem?_modify_eq, Option.map_eq_map]
    · rw [ih ((List.mem_cons.1 h).resolve_left hi), List.getElem?_modify_ne _ _ (Ne.symm hi)]

end Modify

/-- The fixed part is no longer than the layout. -/
theorem fixedSize_le_layoutSize (code : RequestCode) (bs : Bytes) :
    fixedSize code ≤ layoutSize code bs := by
  cases code with
  | prepareTx => exact Nat.le_add_right _ _
  | _ => exact Nat.le_refl _

/-- Every truth value stands in the fixed part of its layout. -/
theorem lt_fixedSize_of_mem_flagPlaces {code : RequestCode} {i : Nat} (h : i ∈ flagPlaces code) :
    i < fixedSize code := by
  cases code with
  | configRx | prepareTx =>
    simp only [flagPlaces, List.mem_cons, List.not_mem_nil, or_false] at h
    simp only [fixedSize]
    omega
  | _ => exact absurd h List.not_mem_nil

/-- The canonical payload is the given one with its truth bytes made 0 or 1 and cut where the layout
ends. -/
theorem isCanonical_canonical {code : RequestCode} {bs : Bytes} (h : HoldsLayout code bs) :
    IsCanonical code bs (canonical code bs) where
  length_eq := by
    rw [canonical, length_foldl_modify, List.length_take, Nat.min_eq_left h.layout_le]
  getElem?_eq i hi hnot := by
    rw [canonical, getElem?_foldl_modify_of_notMem hnot, List.getElem?_take_of_lt hi]
  getElem?_flag_eq i hi := by
    have hlt : i < layoutSize code bs :=
      Nat.lt_of_lt_of_le (lt_fixedSize_of_mem_flagPlaces hi) (fixedSize_le_layoutSize code bs)
    rw [canonical, getElem?_foldl_modify_of_mem hi, List.getElem?_take_of_lt hlt]

/-! ### Payloads that hold their layout -/

/-- The layout that `bs` holds is read as the request, whatever comes after it, and the request is
written in the canonical form. -/
structure ReadAs (code : RequestCode) (bs : Bytes) (r : Request) : Prop where
  code_eq : r.code = code
  read_eq : ∀ rest, ofPayload code (bs.take (layoutSize code bs) ++ rest) = .ok r
  payload_eq : r.payload = .ok (canonical code bs)

/-- A payload that is read as a request is accepted. -/
theorem ReadAs.ofPayload_eq {code : RequestCode} {bs : Bytes} {r : Request}
    (h : ReadAs code bs r) : ofPayload code bs = .ok r := by
  have hwhole := h.read_eq (bs.drop (layoutSize code bs))
  rwa [List.take_append_drop] at hwhole

/-- A payload with all the bytes of a receive setup is read as one. -/
theorem exists_readAs_configRx {bs : Bytes} (h : HoldsLayout .configRx bs) :
    ∃ r, ReadAs .configRx bs r := by
  match bs, h.fixed_le with
  | radio :: f3 :: f2 :: f1 :: f0 :: spreading :: bandwidth :: p1 :: p0 :: iq :: sync :: _, _ =>
    refine ⟨_, rfl, fun rest ↦ rfl, ?_⟩
    simp only [payload, rxSetupBytes, BigEndian.encode32_decode32, BigEndian.encode16_decode16,
      flag_eq_truthByte]
    rfl

/-- The fixed part of a packet to send. Its last byte is the size, so a payload of another size
would not be written with these bytes before it. -/
theorem exists_txHead {bs : Bytes} (h : fixedSize .prepareTx ≤ bs.length) :
    ∃ setup,
      (∀ rest, readTxHead? (bs.take (fixedSize .prepareTx) ++ rest) =
        some (setup, (byteAt bs 20).toNat, rest)) ∧
      ∀ p : Payload, p.size = (byteAt bs 20).toNat →
        txSetupBytes { setup with payload := p } =
          (flagPlaces .prepareTx).foldl (fun out i ↦ out.modify i truthByte)
            (bs.take (fixedSize .prepareTx) ++ p.bytes) := by
  -- Matched in two steps: the bytes are too many for the short cases to be dismissed at once.
  match bs, h with
  | mode :: c3 :: c2 :: c1 :: c0 :: f3 :: f2 :: f1 :: f0 :: more, h =>
    have hmore : 12 ≤ more.length := by
      simp only [fixedSize, List.length_cons] at h
      omega
    match more, hmore with
    | power :: spreading :: bandwidth :: invert :: coding :: noHeader :: useCrc :: ramp :: p1 ::
        p0 :: sync :: size :: _, _ =>
      refine ⟨_, fun rest ↦ rfl, fun p hp ↦ ?_⟩
      change p.size = size.toNat at hp
      simp only [txSetupBytes, BigEndian.encode32_decode32, BigEndian.encode16_decode16,
        flag_eq_truthByte, hp, UInt8.ofNat_toNat]
      rfl

/-- A payload with the head of a packet and the bytes that the head announces is read as one. -/
theorem exists_readAs_prepareTx {bs : Bytes} (h : HoldsLayout .prepareTx bs) :
    ∃ r, ReadAs .prepareTx bs r := by
  obtain ⟨setup, hread, hwrite⟩ := exists_txHead h.fixed_le
  have hlayout : fixedSize .prepareTx + (byteAt bs 20).toNat ≤ bs.length := h.layout_le
  let body := (bs.drop (fixedSize .prepareTx)).take (byteAt bs 20).toNat
  have hbody : body.length = (byteAt bs 20).toNat := by
    rw [List.length_take, List.length_drop, Nat.min_eq_left (Nat.le_sub_of_add_le' hlayout)]
  -- It fits, since its size is a byte.
  let p : Payload := ⟨body, hbody ▸ Nat.le_of_lt_succ (byteAt bs 20).toNat_lt⟩
  have htake : bs.take (layoutSize .prepareTx bs) = bs.take (fixedSize .prepareTx) ++ body :=
    List.take_add
  refine ⟨prepareTx { setup with payload := p }, rfl, fun rest ↦ ?_, congrArg Except.ok ?_⟩
  · have hfits : ¬ (body ++ rest).length < (byteAt bs 20).toNat := by
      rw [List.length_append]
      omega
    have hfront : (body ++ rest).take (byteAt bs 20).toNat = p.bytes := by
      rw [← hbody, List.take_left]
    simp only [ofPayload, htake, List.append_assoc, hread, if_neg hfits, hfront]
    rw [Payload.ofBytes, Payload.ofBytes?_bytes]
    rfl
  · rw [hwrite p hbody, canonical, htake]

/-- A byte that stands for a target is read as a reset of it. -/
theorem exists_readAs_reset {bs : Bytes} (h : HoldsLayout .reset bs)
    (htarget : (byteAt bs 0).toNat ≤ 5) : ∃ r, ReadAs .reset bs r := by
  match bs, h.fixed_le with
  | code :: _, _ =>
    have hcode : ResetTarget.ofCode? code ≠ none := fun hnone ↦
      Nat.not_lt_of_le htarget (ResetTarget.ofCode?_eq_none_iff.1 hnone)
    obtain ⟨target, hof⟩ := Option.ne_none_iff_exists'.1 hcode
    have hwrite := ResetTarget.code_eq_ok_iff.2 (ResetTarget.code?_of_ofCode? hof)
    refine ⟨reset target, rfl, fun rest ↦ ?_, ?_⟩
    · show (ResetTarget.ofCode code).map reset = _
      rw [ResetTarget.ofCode, hof, orFail, Except.map]
    · rw [payload, hwrite]
      rfl

/-- A radio and four bytes are read as a coefficient, whatever the bytes. -/
theorem exists_readAs_setRssiCoefficient {bs : Bytes} (h : HoldsLayout .setRssiCoefficient bs) :
    ∃ r, ReadAs .setRssiCoefficient bs r := by
  match bs, h.fixed_le with
  | radio :: c3 :: c2 :: c1 :: c0 :: _, _ =>
    refine ⟨_, rfl, fun rest ↦ rfl, ?_⟩
    simp only [payload, BigEndian.encode32_decode32]
    rfl

/-- A radio and an address are read as the register to be read. -/
theorem exists_readAs_readRegister {bs : Bytes} (h : HoldsLayout .readRegister bs) :
    ∃ r, ReadAs .readRegister bs r := by
  match bs, h.fixed_le with
  | radio :: a1 :: a0 :: _, _ =>
    refine ⟨_, rfl, fun rest ↦ rfl, ?_⟩
    simp only [payload, BigEndian.encode16_decode16]
    rfl

/-- A radio, an address and a value are read as the register to be written. -/
theorem exists_readAs_writeRegister {bs : Bytes} (h : HoldsLayout .writeRegister bs) :
    ∃ r, ReadAs .writeRegister bs r := by
  match bs, h.fixed_le with
  | radio :: a1 :: a0 :: value :: _, _ =>
    refine ⟨_, rfl, fun rest ↦ rfl, ?_⟩
    simp only [payload, BigEndian.encode16_decode16]
    rfl

/-- What is well-formed is a request. -/
theorem exists_readAs {code : RequestCode} {bs : Bytes} (h : WellFormed code bs) :
    ∃ r, ReadAs code bs r := by
  cases code with
  | ping => exact ⟨ping, rfl, fun _ ↦ rfl, rfl⟩
  | getStatus => exact ⟨getStatus, rfl, fun _ ↦ rfl, rfl⟩
  | bootloader => exact ⟨bootloader, rfl, fun _ ↦ rfl, rfl⟩
  | getRxMessages => exact ⟨getRxMessages, rfl, fun _ ↦ rfl, rfl⟩
  | getTxStatus => exact ⟨getTxStatus, rfl, fun _ ↦ rfl, rfl⟩
  | configRx => exact exists_readAs_configRx h.toHoldsLayout
  | prepareTx => exact exists_readAs_prepareTx h.toHoldsLayout
  | reset => exact exists_readAs_reset h.toHoldsLayout (h.target_le rfl)
  | setRssiCoefficient => exact exists_readAs_setRssiCoefficient h.toHoldsLayout
  | readRegister => exact exists_readAs_readRegister h.toHoldsLayout
  | writeRegister => exact exists_readAs_writeRegister h.toHoldsLayout

/-- A payload whose fixed part is there and the rest is not is refused for the bytes announced. -/
theorem ofPayload_of_lt_layoutSize {code : RequestCode} {bs : Bytes}
    (hfixed : fixedSize code ≤ bs.length) (h : bs.length < layoutSize code bs) :
    ofPayload code bs = .error (.malformedRequest code bs.length (layoutSize code bs)) := by
  cases code with
  | prepareTx =>
    obtain ⟨setup, hread, -⟩ := exists_txHead hfixed
    have hread := hread (bs.drop (fixedSize .prepareTx))
    have hshort : (bs.drop (fixedSize .prepareTx)).length < (byteAt bs 20).toNat := by
      rw [List.length_drop]
      exact Nat.sub_lt_left_of_lt_add hfixed h
    rw [List.take_append_drop] at hread
    rw [ofPayload, hread]
    exact if_pos hshort
  | _ => exact absurd h (Nat.not_lt_of_le hfixed)

/-- A receive setup is not read off too few bytes. -/
theorem readRxSetup?_of_lt {bs : Bytes} (h : bs.length < fixedSize .configRx) :
    readRxSetup? bs = none := by
  unfold readRxSetup?
  split
  · simp only [fixedSize, List.length_cons] at h
    omega
  · rfl

/-- The head of a packet is not read off too few bytes. -/
theorem readTxHead?_of_lt {bs : Bytes} (h : bs.length < fixedSize .prepareTx) :
    readTxHead? bs = none := by
  unfold readTxHead?
  split
  · simp only [fixedSize, List.length_cons] at h
    omega
  · rfl

/-- A payload without its fixed part is refused for the fixed part. -/
theorem ofPayload_of_lt_fixedSize {code : RequestCode} {bs : Bytes}
    (h : bs.length < fixedSize code) :
    ofPayload code bs = .error (.malformedRequest code bs.length (fixedSize code)) := by
  cases code with
  | ping | getStatus | bootloader | getRxMessages | getTxStatus =>
    exact absurd h (Nat.not_lt_zero _)
  | configRx =>
    rw [ofPayload, readRxSetup?_of_lt h]
    rfl
  | prepareTx =>
    rw [ofPayload, readTxHead?_of_lt h]
    rfl
  | reset | setRssiCoefficient | readRegister | writeRegister =>
    simp only [ofPayload]
    split
    · simp only [fixedSize, List.length_cons] at h
      omega
    · rfl

/-- A reset of what no code names is refused for the code. -/
theorem ofPayload_reset_of_lt {bs : Bytes} (hfixed : fixedSize .reset ≤ bs.length)
    (h : 5 < (byteAt bs 0).toNat) :
    ofPayload .reset bs = .error (.unknownCode .resetTarget (byteAt bs 0)) := by
  match bs, hfixed with
  | code :: _, _ =>
    show (ResetTarget.ofCode code).map reset = _
    have hnone : ResetTarget.ofCode? code = none := ResetTarget.ofCode?_eq_none_iff.2 h
    rw [ResetTarget.ofCode, hnone]
    rfl

/-! ### The reader -/

/-- The bytes after the layout do not matter, be the payload well-formed or not. -/
theorem ofPayload_take_append {code : RequestCode} {bs : Bytes} (h : HoldsLayout code bs)
    (rest : Bytes) :
    ofPayload code (bs.take (layoutSize code bs) ++ rest) = ofPayload code bs := by
  by_cases htarget : code = .reset → (byteAt bs 0).toNat ≤ 5
  · obtain ⟨r, hr⟩ := exists_readAs ⟨h, htarget⟩
    rw [hr.read_eq, hr.ofPayload_eq]
  · obtain ⟨rfl, -⟩ := Classical.not_imp.1 htarget
    match bs, h.fixed_le with
    | code :: _, _ => rfl

/-- Only well-formed payloads are accepted. -/
theorem wellFormed_of_ofPayload {code : RequestCode} {bs : Bytes} {r : Request}
    (h : ofPayload code bs = .ok r) : WellFormed code bs := by
  have hfixed : fixedSize code ≤ bs.length := by
    refine Nat.le_of_not_lt fun hlt ↦ ?_
    rw [ofPayload_of_lt_fixedSize hlt] at h
    cases h
  refine ⟨⟨hfixed, Nat.le_of_not_lt fun hlt ↦ ?_⟩, ?_⟩
  · rw [ofPayload_of_lt_layoutSize hfixed hlt] at h
    cases h
  · rintro rfl
    refine Nat.le_of_not_lt fun hlt ↦ ?_
    rw [ofPayload_reset_of_lt hfixed hlt] at h
    cases h

/-- The reader of payloads reads just the layouts of a code: what it accepts, how it refuses the
rest, and what becomes of an accepted payload when the request is written again into the request
buffer. -/
structure ReadsLayout (code : RequestCode) (bs : Bytes) : Prop where
  exists_ok_iff : (∃ r, ofPayload code bs = .ok r) ↔ WellFormed code bs
  of_lt_fixedSize : bs.length < fixedSize code →
    ofPayload code bs = .error (.malformedRequest code bs.length (fixedSize code))
  of_lt_layoutSize : fixedSize code ≤ bs.length → bs.length < layoutSize code bs →
    ofPayload code bs = .error (.malformedRequest code bs.length (layoutSize code bs))
  of_ok : ∀ r, ofPayload code bs = .ok r →
    r.code = code ∧ ∃ out, (∀ held, r.fill held = (.ok (), out)) ∧ IsCanonical code bs out ∧
      ofPayload code out = .ok r
  of_append : HoldsLayout code bs →
    ∀ rest, ofPayload code (bs.take (layoutSize code bs) ++ rest) = ofPayload code bs

/-- **The reader of requests accepts just their layouts, and they are written again in canonical
form.** For every code and every byte string: it is a request when it holds the fixed part of the
layout, for a packet to send also the bytes that byte 20 announces, and for a reset a target of at
most five; a payload too short is refused with its length and the length that it misses. The request
goes into the buffer whatever that held, in the bytes of the layout with each truth value zero or
one; reading these gives the same request. The bytes after the layout never matter. -/
theorem ofPayload_readsLayout (code : RequestCode) (bs : Bytes) : ReadsLayout code bs where
  exists_ok_iff := by
    constructor
    · rintro ⟨r, h⟩
      exact wellFormed_of_ofPayload h
    · intro h
      obtain ⟨r, hr⟩ := exists_readAs h
      exact ⟨r, hr.ofPayload_eq⟩
  of_lt_fixedSize := ofPayload_of_lt_fixedSize
  of_lt_layoutSize := ofPayload_of_lt_layoutSize
  of_ok r h := by
    have hwell := wellFormed_of_ofPayload h
    obtain ⟨r', hr⟩ := exists_readAs hwell
    obtain rfl : r = r' := Except.ok.inj (h.symm.trans hr.ofPayload_eq)
    obtain rfl := hr.code_eq
    refine ⟨rfl, _, fun held ↦ ?_, isCanonical_canonical hwell.toHoldsLayout,
      ofPayload_payload hr.payload_eq⟩
    rw [fill_eq, hr.payload_eq]
  of_append := ofPayload_take_append

end Request

end LoraConcentrator
