import Mathlib.Data.List.TakeWhile
import LoraConcentrator.Proofs.Bytes.Utf8
import LoraConcentrator.Proofs.Gateway.Protocol
import LoraConcentrator.Proofs.Wire.ReplyLayout

/-!
# The firmware that is accepted

The version of a device is nine bytes of text that may end early and may be no text at all; what is
compared is the text after its first character, provided that this is a single byte. Since a text
without replacement characters is read off its own bytes only, just the fields pass that hold any
letter of ASCII and then the version itself (`Identity.firmware_eq_iff`): neither a zero byte nor an
ill-formed run anywhere in the field leads to the version in another way.

Main statement: a gateway that starts fails for the firmware exactly when the field of the device is
another one, and then it has asked who the device is and nothing else
(`Gateway.startAttached_firmware`).
-/

namespace LoraConcentrator

open BigEndian Link Program

/-! ### The version field -/

namespace Identity

/-- The bytes of the version that the library speaks to. -/
def firmwareBytes : Bytes := [0x30, 0x31, 0x2E, 0x30, 0x30, 0x2E, 0x30, 0x31]

/-- The version field of a payload names the firmware: a letter of ASCII, and then the version. -/
structure NamesFirmware (payload : Bytes) : Prop where
  letter_ge : 0x01 ≤ (byteAt payload 12).toNat
  letter_le : (byteAt payload 12).toNat ≤ 0x7F
  version_eq : fieldAt payload 13 8 = firmwareBytes

/-- The characters of the version are one byte each. -/
theorem flatMap_firmwareVersion :
    firmwareVersion.toList.flatMap String.utf8EncodeChar = firmwareBytes := by
  decide

/-- A character of one byte and the version hold no replacement. -/
theorem replacement_notMem {c : Char} (hc : c.utf8Size = 1) :
    Utf8.replacement ∉ c :: firmwareVersion.toList := by
  have htext : Utf8.replacement ∉ firmwareVersion.toList := by decide
  refine fun hmem ↦ (List.mem_cons.1 hmem).elim (fun heq ↦ ?_) htext
  have hsize : Utf8.replacement.utf8Size = 3 := by decide
  rw [heq, hc] at hsize
  cases hsize

/-- The version is compared without its first character, which must be a single byte. -/
theorem firmware_eq_iff_toList {identity : Identity} :
    identity.firmware = firmwareVersion ↔
      ∃ c : Char, c.utf8Size = 1 ∧ identity.version.toList = c :: firmwareVersion.toList := by
  have hne : "" ≠ firmwareVersion := by decide
  unfold firmware
  split
  · rename_i first rest htext
    rw [htext]
    constructor
    · intro h
      split at h
      · rename_i hsize
        refine ⟨first, hsize, ?_⟩
        rw [← h, String.toList_ofList]
      · exact absurd h hne
    · rintro ⟨c, hsize, hcons⟩
      obtain ⟨rfl, rfl⟩ := List.cons.inj hcons
      rw [if_pos hsize, String.ofList_toList]
  · rename_i htext
    rw [htext]
    refine iff_of_false hne ?_
    rintro ⟨c, -, h⟩
    cases h

/-- The text of a version field ends before its first zero byte. -/
theorem toList_versionText (field : Bytes) :
    (versionText field).toList = Utf8.decodeLossy (field.takeWhile (· != 0)) :=
  String.toList_ofList

/-- A field that ends nowhere early is the bytes before its end. -/
theorem takeWhile_eq_iff {field bs : Bytes} (hlength : bs.length = field.length) :
    field.takeWhile (· != 0) = bs ↔ field = bs ∧ 0 ∉ bs := by
  constructor
  · intro h
    have hfield : field.takeWhile (· != 0) = field :=
      (List.takeWhile_prefix _).eq_of_length (by rw [h, hlength])
    refine ⟨hfield.symm.trans h, fun hzero ↦ ?_⟩
    rw [← h] at hzero
    exact bne_iff_ne.1 (List.mem_takeWhile_imp (p := (· != 0)) hzero) rfl
  · rintro ⟨rfl, hzero⟩
    exact List.takeWhile_eq_self_iff.2 fun b hb ↦ bne_iff_ne.2 fun h ↦ hzero (h ▸ hb)

/-- The version field is its letter and eight bytes more. -/
theorem fieldAt_version {payload : Bytes} (h : 23 ≤ payload.length) :
    fieldAt payload 12 9 = byteAt payload 12 :: fieldAt payload 13 8 := by
  have hget : payload[12]? = some payload[12] := List.getElem?_eq_getElem (by omega)
  rw [fieldAt, List.drop_eq_getElem_cons (by omega), List.take_succ_cons, byteAt, hget]
  rfl

theorem length_fieldAt_version {payload : Bytes} (h : 23 ≤ payload.length) :
    (fieldAt payload 13 8).length = 8 := by
  rw [fieldAt, List.length_take, List.length_drop]
  omega

/-- A byte of ASCII is the bytes of a character, and only such a byte is all of one. -/
theorem exists_char_iff {letter : UInt8} :
    (∃ c : Char, c.utf8Size = 1 ∧ String.utf8EncodeChar c = [letter]) ↔ letter.toNat ≤ 0x7F := by
  constructor
  · rintro ⟨c, -, hc⟩
    have hspells := Utf8.spells_utf8EncodeChar c
    rw [hc] at hspells
    cases hspells with
    | one hlt => exact Nat.le_of_lt_succ hlt
  · intro h
    have hspells : Utf8.Spells letter.toNat [letter] := .one (Nat.lt_succ_of_le h) rfl
    refine ⟨Char.ofNat letter.toNat, ?_, hspells.eq_utf8EncodeChar.symm⟩
    rw [← String.length_utf8EncodeChar, ← hspells.eq_utf8EncodeChar]
    rfl

/-- Only the letter can be a zero byte. -/
theorem zero_mem_iff {letter : UInt8} : 0 ∈ letter :: firmwareBytes ↔ letter = 0 := by
  have hrest : 0 ∉ firmwareBytes := by decide
  rw [List.mem_cons, or_iff_left hrest, eq_comm]

/-- The version is accepted just for its own field. -/
theorem firmware_eq_iff {identity : Identity} {payload : Bytes} (h : 23 ≤ payload.length)
    (hversion : identity.version = versionText (fieldAt payload 12 9)) :
    identity.firmware = firmwareVersion ↔ NamesFirmware payload := by
  have hfield := fieldAt_version h
  have hlength (letter : UInt8) :
      (letter :: firmwareBytes).length = (fieldAt payload 12 9).length := by
    rw [hfield, List.length_cons, List.length_cons, length_fieldAt_version h]
    rfl
  rw [firmware_eq_iff_toList, hversion, toList_versionText]
  constructor
  · rintro ⟨c, hsize, htext⟩
    have hc := String.utf8EncodeChar_eq_singleton hsize
    rw [Utf8.decodeLossy_eq_iff (replacement_notMem hsize), List.flatMap_cons,
      flatMap_firmwareVersion, hc] at htext
    obtain ⟨heq, hzero⟩ := (takeWhile_eq_iff (hlength _)).1 htext
    rw [hfield] at heq
    obtain ⟨hletter, hrest⟩ := List.cons.inj heq
    rw [zero_mem_iff, ← hletter] at hzero
    rw [← hletter] at hc
    refine ⟨Nat.pos_of_ne_zero fun h0 ↦ hzero (UInt8.toNat_inj.1 h0), ?_, hrest⟩
    exact exists_char_iff.1 ⟨c, hsize, hc⟩
  · rintro ⟨hge, hle, hrest⟩
    obtain ⟨c, hsize, hc⟩ := exists_char_iff.2 hle
    refine ⟨c, hsize, ?_⟩
    rw [Utf8.decodeLossy_eq_iff (replacement_notMem hsize), List.flatMap_cons,
      flatMap_firmwareVersion, hc]
    refine (takeWhile_eq_iff (hlength _)).2 ⟨by rw [hfield, hrest], ?_⟩
    rw [zero_mem_iff]
    intro hletter
    rw [hletter] at hge
    exact Nat.not_succ_le_zero 0 hge

end Identity

/-! ### The gateway -/

namespace Plan

/-- Of the steps only the check of the firmware fails for the firmware. -/
theorem StepFails.firmware_ne {plan : Plan} {step : Step} {expected actual : String}
    {d d' : Dialogue} (h : plan.StepFails step (.firmwareMismatch expected actual) d d') :
    plan.identity.firmware ≠ firmwareVersion := by
  cases h with
  | unanswered hexchange =>
    obtain ⟨-, ⟨hpayload, -⟩ | ⟨_, _, _, -, he, -⟩⟩ := DialogueM.exchange_error hexchange
    · obtain ⟨radio, -, -, he⟩ := Request.payload_eq_error_iff.1 hpayload
      cases he
    · cases he
  | rejected _ _ hrejects => cases hrejects
  | firmware hne => exact hne

/-- Where a row of steps stops at the firmware, it is another one. -/
theorem StopsIn.firmware_ne {plan : Plan} {steps : List Step} {expected actual : String}
    {d d' : Dialogue} (h : plan.StopsIn steps (.firmwareMismatch expected actual) d d') :
    plan.identity.firmware ≠ firmwareVersion := by
  generalize he : Error.firmwareMismatch expected actual = e at h
  induction h with
  | here _ hfails _ =>
    subst he
    exact hfails.firmware_ne
  | later _ _ _ ih => exact ih he

end Plan

namespace DialogueM

variable {d d' : Dialogue} {frame : Frame} {identity : Identity}

/-- A reply that identifies the device is all that asking for it takes. -/
theorem exists_ping (hexchange : exchange .ping d = .ok frame d')
    (hread : Identity.ofFrame frame = .ok identity) :
    ∃ d₁, ping d = .ok identity d₁ ∧ d₁.link = d'.link.note (.identified identity) := by
  have hask : ask .ping Identity.ofFrame d = .ok identity d' := by
    rw [ask, bind_of_ok hexchange, hread]
    rfl
  refine ⟨⟨{ d'.controller with rxRadios := identity.rxRadios, txRadios := identity.txRadios },
    d'.link.note (.identified identity)⟩, ?_, rfl⟩
  rw [ping, bind_of_ok hask]
  rfl

/-- The check passes for just one firmware. -/
theorem exists_checkFirmware_iff :
    (∃ d', checkFirmware identity d = .ok () d') ↔ identity.firmware = firmwareVersion := by
  constructor
  · rintro ⟨d', h⟩
    by_contra hne
    rw [checkFirmware, if_pos hne] at h
    cases h
  · intro h
    rw [checkFirmware, if_neg (not_not_intro h)]
    exact ⟨_, rfl⟩

/-- A device with another firmware is left right after it said who it is. -/
theorem bringUp_of_firmware_ne (radio1First : Bool) (channels : RxChannels)
    (hping : ping d = .ok identity d') (hne : identity.firmware ≠ firmwareVersion) :
    bringUp radio1First channels d =
      .error (.firmwareMismatch firmwareVersion identity.firmware)
        { d' with link := d'.link.note (.firmwareMismatch firmwareVersion identity.firmware) } := by
  have hcheck : checkFirmware identity d' =
      .error (.firmwareMismatch firmwareVersion identity.firmware)
        { d' with link := d'.link.note (.firmwareMismatch firmwareVersion identity.firmware) } := by
    rw [checkFirmware, if_pos hne]
    rfl
  have hmeet : meet d = .error (.firmwareMismatch firmwareVersion identity.firmware)
      { d' with link := d'.link.note (.firmwareMismatch firmwareVersion identity.firmware) } := by
    rw [meet, bind_of_ok hping, bind_of_error hcheck]
  rw [bringUp, bind_of_error hmeet]

end DialogueM

namespace Gateway

/-- **The firmware that a gateway accepts.** A gateway that starts asks the device who it is first.
Whatever frame answers, with the tag of the reply and bytes enough: the firmware is accepted just
where byte 12 of the payload is a byte of ASCII other than zero and bytes 13 to 20 are the version,
and for every other field the gateway fails for its firmware, stays stopped, and has written nothing
but that one request. -/
theorem startAttached_firmware {g : Gateway} {frame : Frame} {d : Dialogue}
    (hstopped : ¬ g.isStarted) (hanswer : DialogueM.exchange .ping g.opening = .ok frame d)
    (htag : frame.header.tag = ReplyCode.ping.code) (hlength : 23 ≤ frame.payload.length) :
    ∃ identity, Identity.ofFrame frame = .ok identity ∧
      (∀ d₁, (∃ d₂, DialogueM.checkFirmware identity d₁ = .ok () d₂) ↔
        Identity.NamesFirmware frame.payload) ∧
      ((∃ expected actual, (step .startAttached g).1 = .error (.firmwareMismatch expected actual)) ↔
        ¬ Identity.NamesFirmware frame.payload) ∧
      (¬ Identity.NamesFirmware frame.payload →
        (step .startAttached g).1 =
          .error (.firmwareMismatch firmwareVersion identity.firmware) ∧
        ∃ written, Request.ping.frame IdSource.initial.next.1 = .ok written ∧
          (step .startAttached g).2.link.sent = g.link.sent ++ written ∧
          ¬ (step .startAttached g).2.isStarted) := by
  obtain ⟨identity, hread⟩ :=
    (Identity.readsLayout.exists_ok_iff frame).2 ⟨htag, hlength, hlength⟩
  have hversion := (Identity.readsLayout.of_ok frame identity hread).version_eq
  have hiff := Identity.firmware_eq_iff hlength hversion
  obtain ⟨written, reply, hx⟩ := DialogueM.exchange_ok hanswer
  obtain ⟨d₁, hping, hlink⟩ := DialogueM.exists_ping hanswer hread
  have hfails (hnames : ¬ Identity.NamesFirmware frame.payload) :
      (step .startAttached g).1 =
        .error (.firmwareMismatch firmwareVersion identity.firmware) ∧
      (step .startAttached g).2.link.sent = g.link.sent ++ written ∧
      ¬ (step .startAttached g).2.isStarted := by
    have hbring := DialogueM.bringUp_of_firmware_ne g.board.radio1First g.rxChannels hping
      (mt hiff.1 hnames)
    obtain ⟨waits, -, hm⟩ := hx.moved
    rw [step_startAttached_of_error hstopped hbring]
    refine ⟨rfl, ?_, hstopped⟩
    show (d₁.link.note _).close.sent = _
    rw [sent_close, hlink]
    exact ((hm.note _).note _).sent_eq
  refine ⟨identity, hread, fun _ ↦ DialogueM.exists_checkFirmware_iff.trans hiff,
    ⟨?_, fun hnames ↦ ⟨_, _, (hfails hnames).1⟩⟩, fun hnames ↦ ?_⟩
  · rintro ⟨expected, actual, herror⟩
    rcases hbring : DialogueM.bringUp g.board.radio1First g.rxChannels g.opening with
      ⟨_, d₂⟩ | ⟨e, d₂⟩
    · rw [step_startAttached_of_ok hstopped hbring] at herror
      cases herror
    · rw [step_startAttached_of_error hstopped hbring] at herror
      cases herror
      -- the step that failed is that of a device with the identity that was read
      obtain ⟨identity', hgreets | hreports, hstops, -⟩ := Plan.stopsIn_of_bringUp_error hbring
      · exact mt hiff.2 (hgreets (g.plan identity)).firmware_ne
      · obtain rfl := hreports.unique (DialogueM.reports_of_exchanged hx hread)
        exact mt hiff.2 hstops.firmware_ne
  · obtain ⟨herror, hsent, hstopped'⟩ := hfails hnames
    exact ⟨herror, written, hx.frame_eq, hsent, hstopped'⟩

/-- The frame that answers when the gateway asks the device who it is. -/
def firstAnswer (g : Gateway) : Option Frame :=
  match DialogueM.exchange .ping g.opening with
  | .ok frame _ => some frame
  | .error _ _ => none

/-- The first frame that arrives is the reply to the first request. -/
theorem exists_of_firstAnswer {g : Gateway} {frame : Frame} (h : g.firstAnswer = some frame) :
    ∃ d, DialogueM.exchange .ping g.opening = .ok frame d := by
  unfold firstAnswer at h
  split at h
  · rename_i d hexchange
    exact ⟨d, Option.some.inj h ▸ hexchange⟩
  · cases h

/-- The payload of a board with that version field. -/
def samplePayload (version : Bytes) : Bytes :=
  [0, 0, 0, 1, 0, 0, 0, 0xAA, 0, 0, 0, 2] ++ version ++ [1, 3]

/-- A gateway with a board of that version. -/
def sampleOfVersion (version : Bytes) : Gateway where
  link := { incoming := ([0, 0, 23, 0x40] ++ samplePayload version).map .byte }

/-- A board with the firmware is accepted, one whose version field is blank is not. -/
theorem startAttached_firmware_sample :
    (∀ expected actual, (step .startAttached (sampleOfVersion sampleVersion)).1 ≠
      .error (.firmwareMismatch expected actual)) ∧
    ∃ actual, (step .startAttached (sampleOfVersion (List.replicate 9 0))).1 =
      .error (.firmwareMismatch firmwareVersion actual) := by
  constructor
  · intro expected actual herror
    have hfirst : (sampleOfVersion sampleVersion).firstAnswer =
        some ⟨⟨0, 23, 0x40⟩, samplePayload sampleVersion⟩ := by decide +kernel
    obtain ⟨d, hanswer⟩ := exists_of_firstAnswer hfirst
    obtain ⟨identity, -, -, hiff, -⟩ :=
      startAttached_firmware (by decide) hanswer (by decide) (by decide)
    exact hiff.1 ⟨expected, actual, herror⟩ ⟨by decide, by decide, by decide⟩
  · have hfirst : (sampleOfVersion (List.replicate 9 0)).firstAnswer =
        some ⟨⟨0, 23, 0x40⟩, samplePayload (List.replicate 9 0)⟩ := by decide +kernel
    obtain ⟨d, hanswer⟩ := exists_of_firstAnswer hfirst
    obtain ⟨identity, -, -, -, hfails⟩ :=
      startAttached_firmware (by decide) hanswer (by decide) (by decide)
    have hother : ¬ Identity.NamesFirmware (samplePayload (List.replicate 9 0)) := fun h ↦
      absurd h.letter_ge (by decide)
    exact ⟨identity.firmware, (hfails hother).1⟩

end Gateway

end LoraConcentrator
