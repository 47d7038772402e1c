import LoraConcentrator.Radio.Channel

/-!
# Status bytes and reset targets

Replies report success and failure by one byte. A byte without a meaning is kept as it is, so that
reading a status and writing it again never changes it (`TxStatus.code_ofCode`). A reset names what
is reset by one byte as well; resetting a single receive radio has a code only for the radios a
board can have (`ResetTarget.code?_eq_none_iff`).
-/

namespace LoraConcentrator

/-- The status byte that reports success. -/
def statusOk : UInt8 := 0x00

/-- The name of a status byte without a meaning. -/
def unknownStatusName (code : UInt8) : String := "Unknown(" ++ toString code.toNat ++ ")"

/-! ### Transmission -/

/-- How far a transmission has come. -/
inductive TxStatus
  | idle
  | loaded
  | onAir
  | done
  | badParameter
  | failedToSend
  | timedOut
  | unknown (code : UInt8)
  deriving DecidableEq, Repr

namespace TxStatus

/-- The byte of a status. -/
def code : TxStatus → UInt8
  | idle => 0
  | loaded => 1
  | onAir => 2
  | done => 3
  | badParameter => 4
  | failedToSend => 5
  | timedOut => 6
  | unknown code => code

/-- The status of a byte. -/
def ofCode (code : UInt8) : TxStatus :=
  if code = 0 then idle
  else if code = 1 then loaded
  else if code = 2 then onAir
  else if code = 3 then done
  else if code = 4 then badParameter
  else if code = 5 then failedToSend
  else if code = 6 then timedOut
  else unknown code

/-- Whether the transmission failed. -/
def isError : TxStatus → Bool
  | badParameter | failedToSend | timedOut => true
  | idle | loaded | onAir | done | unknown _ => false

/-- Whether the transmission is over. -/
def isTerminal : TxStatus → Bool
  | idle | done | badParameter | failedToSend | timedOut => true
  | loaded | onAir | unknown _ => false

/-- The name of a status. -/
def name : TxStatus → String
  | idle => "Idle"
  | loaded => "Loaded"
  | onAir => "OnAir"
  | done => "Done"
  | badParameter => "ErrParam"
  | failedToSend => "ErrFailToSend"
  | timedOut => "ErrTimeout"
  | unknown code => unknownStatusName code

/-- The status of a byte has this byte. -/
@[simp]
theorem code_ofCode (n : UInt8) : (ofCode n).code = n := by
  unfold ofCode
  repeat' split
  all_goals first | rfl | (rename_i h; exact h.symm)

/-- A failed transmission is over. -/
theorem isTerminal_of_isError {s : TxStatus} (h : s.isError) : s.isTerminal := by
  cases s <;> first | rfl | cases h

end TxStatus

/-! ### Receive radio configuration -/

/-- What became of the configuration of a receive radio. -/
inductive ConfigRxStatus
  | done
  | badParameter
  | radioUnavailable
  | unknown (code : UInt8)
  deriving DecidableEq, Repr

namespace ConfigRxStatus

/-- The status of a byte. -/
def ofCode (code : UInt8) : ConfigRxStatus :=
  if code = 0 then done
  else if code = 1 then badParameter
  else if code = 2 then radioUnavailable
  else unknown code

/-- The name of a status. -/
def name : ConfigRxStatus → String
  | done => "Done"
  | badParameter => "BadParameter"
  | radioUnavailable => "RadioUnavailable"
  | unknown code => unknownStatusName code

/-- Only byte 0 says that a radio is configured. -/
theorem ofCode_eq_done_iff {n : UInt8} : ofCode n = done ↔ n = statusOk := by
  constructor
  · unfold ofCode
    intro h
    repeat' split at h
    all_goals first | assumption | cases h
  · rintro rfl
    decide

end ConfigRxStatus

/-! ### Loading a transmission -/

/-- What became of a packet to send. -/
inductive PrepareTxStatus
  | ok
  | badParameter
  | collision
  | radioUnavailable
  | unknown (code : UInt8)
  deriving DecidableEq, Repr

namespace PrepareTxStatus

/-- The status of a byte. -/
def ofCode (code : UInt8) : PrepareTxStatus :=
  if code = 0 then ok
  else if code = 1 then badParameter
  else if code = 2 then collision
  else if code = 3 then radioUnavailable
  else unknown code

/-- The name of a status. -/
def name : PrepareTxStatus → String
  | ok => "Ok"
  | badParameter => "BadParameter"
  | collision => "Collision"
  | radioUnavailable => "RadioUnavailable"
  | unknown code => unknownStatusName code

/-- Only byte 0 says that a transmission is loaded. -/
theorem ofCode_eq_ok_iff {n : UInt8} : ofCode n = ok ↔ n = statusOk := by
  constructor
  · unfold ofCode
    intro h
    repeat' split at h
    all_goals first | assumption | cases h
  · rintro rfl
    decide

end PrepareTxStatus

/-! ### Time pulse -/

/-- Whether the pulse of a positioning receiver was captured. -/
inductive PpsStatus
  | notCaptured
  | captured
  | unknown (code : UInt8)
  deriving DecidableEq, Repr

namespace PpsStatus

/-- The status of a byte. -/
def ofCode (code : UInt8) : PpsStatus :=
  if code = 0 then notCaptured
  else if code = 1 then captured
  else unknown code

/-- The name of a status. -/
def name : PpsStatus → String
  | notCaptured => "NotCaptured"
  | captured => "Captured"
  | unknown code => unknownStatusName code

end PpsStatus

/-! ### Reset targets -/

/-- What a reset resets. -/
inductive ResetTarget
  /-- One receive radio. -/
  | rx (radio : UInt8)
  | rxAll
  | tx
  /-- The board's microcontroller. -/
  | mcu
  deriving DecidableEq, Repr

namespace ResetTarget

/-- The byte of a target; a single receive radio has one only if a board can have it. -/
def code? : ResetTarget → Option UInt8
  | rx radio => if radio.toNat < rxChannelCount then some radio else none
  | rxAll => some 3
  | tx => some 4
  | mcu => some 5

/-- The target of a byte. -/
def ofCode? (code : UInt8) : Option ResetTarget :=
  if code.toNat < rxChannelCount then some (rx code)
  else if code = 3 then some rxAll
  else if code = 4 then some tx
  else if code = 5 then some mcu
  else none

/-- The name of a target. -/
def name : ResetTarget → String
  | rx radio => "Rx(" ++ toString radio.toNat ++ ")"
  | rxAll => "RxAll"
  | tx => "Tx"
  | mcu => "Mcu"

/-- Only receive radios that no device has are targets without a code. -/
theorem code?_eq_none_iff {t : ResetTarget} :
    t.code? = none ↔ ∃ radio, t = rx radio ∧ rxChannelCount ≤ radio.toNat := by
  cases t with
  | rx radio =>
    simp only [code?, rx.injEq]
    constructor
    · intro h
      split at h
      · cases h
      · exact ⟨radio, rfl, Nat.le_of_not_lt ‹_›⟩
    · rintro ⟨_, rfl, h⟩
      rw [if_neg (Nat.not_lt_of_le h)]
  | rxAll => simp [code?]
  | tx => simp [code?]
  | mcu => simp [code?]

/-- Reading undoes writing. -/
theorem ofCode?_of_code? {t : ResetTarget} {n : UInt8} (h : t.code? = some n) :
    ofCode? n = some t := by
  cases t with
  | rx radio =>
    simp only [code?] at h
    split at h
    · cases h
      rw [ofCode?, if_pos ‹_›]
    · cases h
  | rxAll => cases h; decide
  | tx => cases h; decide
  | mcu => cases h; decide

/-- Writing undoes reading. -/
theorem code?_of_ofCode? {t : ResetTarget} {n : UInt8} (h : ofCode? n = some t) :
    t.code? = some n := by
  unfold ofCode? at h
  split at h
  · cases h
    rw [code?, if_pos ‹_›]
  · repeat' split at h
    all_goals first | (cases h; subst_vars; rfl) | cases h

end ResetTarget

end LoraConcentrator
