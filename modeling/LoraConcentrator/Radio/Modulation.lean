/-!
# Modulation parameters

The parameters of the 2.4 GHz modem: bandwidth, spreading factor, coding rate and the way a
transmission starts. Each has the code the device expects, and a bandwidth has its value in
kilohertz as well. Every writer of a code has a reader beside it that undoes it (`ofCode?_code`,
`ofKilohertz?_kilohertz`) and reads nothing else (`ofCode?_eq_some_iff` and its like).
-/

namespace LoraConcentrator

/-! ### Bandwidth -/

/-- The bandwidths of the modem. -/
inductive Bandwidth
  | khz200
  | khz400
  | khz800
  | khz1600
  deriving DecidableEq, Repr

namespace Bandwidth

/-- Every value, in the order of its codes. -/
def all : List Bandwidth :=
  [khz200, khz400, khz800, khz1600]

/-- The code of a bandwidth. -/
def code : Bandwidth → UInt8
  | khz200 => 8
  | khz400 => 10
  | khz800 => 12
  | khz1600 => 13

/-- The nominal bandwidth in kilohertz. -/
def kilohertz : Bandwidth → UInt16
  | khz200 => 200
  | khz400 => 400
  | khz800 => 800
  | khz1600 => 1600

/-- The bandwidth of a code. -/
def ofCode? (code : UInt8) : Option Bandwidth :=
  all.find? fun x ↦ x.code == code

/-- The bandwidth of a number of kilohertz. -/
def ofKilohertz? (n : UInt16) : Option Bandwidth :=
  all.find? fun x ↦ x.kilohertz == n

/-- The name of a bandwidth. -/
def name : Bandwidth → String
  | khz200 => "Khz200"
  | khz400 => "Khz400"
  | khz800 => "Khz800"
  | khz1600 => "Khz1600"

/-- The code of a bandwidth is read back. -/
@[simp]
theorem ofCode?_code (b : Bandwidth) : ofCode? b.code = some b := by
  cases b <;> decide

@[simp]
theorem ofKilohertz?_kilohertz (b : Bandwidth) : ofKilohertz? b.kilohertz = some b := by
  cases b <;> decide

theorem ofCode?_eq_some_iff {n : UInt8} {b : Bandwidth} : ofCode? n = some b ↔ n = b.code := by
  constructor
  · intro h
    have := List.find?_some h
    exact (eq_of_beq this).symm
  · rintro rfl
    exact ofCode?_code b

theorem ofKilohertz?_eq_some_iff {n : UInt16} {b : Bandwidth} :
    ofKilohertz? n = some b ↔ n = b.kilohertz := by
  constructor
  · intro h
    have := List.find?_some h
    exact (eq_of_beq this).symm
  · rintro rfl
    exact ofKilohertz?_kilohertz b

end Bandwidth

/-! ### Spreading factor -/

/-- The spreading factors of the modem. -/
inductive SpreadingFactor
  | sf5
  | sf6
  | sf7
  | sf8
  | sf9
  | sf10
  | sf11
  | sf12
  deriving DecidableEq, Repr

namespace SpreadingFactor

/-- Every value, in the order of its codes. -/
def all : List SpreadingFactor :=
  [sf5, sf6, sf7, sf8, sf9, sf10, sf11, sf12]

/-- The bits of a symbol, which are the code of the factor as well. -/
def bits : SpreadingFactor → Nat
  | sf5 => 5
  | sf6 => 6
  | sf7 => 7
  | sf8 => 8
  | sf9 => 9
  | sf10 => 10
  | sf11 => 11
  | sf12 => 12

/-- The code of a spreading factor. -/
def code (sf : SpreadingFactor) : UInt8 := UInt8.ofNat sf.bits

/-- The spreading factor of a code. -/
def ofCode? (code : UInt8) : Option SpreadingFactor :=
  all.find? fun x ↦ x.code == code

/-- The name of a spreading factor. -/
def name (sf : SpreadingFactor) : String := "Sf" ++ toString sf.bits

/-- The code of a spreading factor is read back. -/
@[simp]
theorem ofCode?_code (sf : SpreadingFactor) : ofCode? sf.code = some sf := by
  cases sf <;> decide

theorem ofCode?_eq_some_iff {n : UInt8} {sf : SpreadingFactor} :
    ofCode? n = some sf ↔ n = sf.code := by
  constructor
  · intro h
    have := List.find?_some h
    exact (eq_of_beq this).symm
  · rintro rfl
    exact ofCode?_code sf

end SpreadingFactor

/-! ### Coding rate -/

/-- The coding rates of the modem: four standard ones and three with long interleaving. -/
inductive CodingRate
  | standard45
  | standard46
  | standard47
  | standard48
  | long45
  | long46
  | long48
  deriving DecidableEq, Repr

namespace CodingRate

/-- Every value, in the order of its codes. -/
def all : List CodingRate :=
  [standard45, standard46, standard47, standard48, long45, long46, long48]

/-- The number of a coding rate in the modem's own table, counted from one. -/
def number : CodingRate → Nat
  | standard45 => 1
  | standard46 => 2
  | standard47 => 3
  | standard48 => 4
  | long45 => 5
  | long46 => 6
  | long48 => 7

/-- The number as a byte. -/
def code (cr : CodingRate) : UInt8 := UInt8.ofNat cr.number

/-- The code of a coding rate in a request: one less than its number. -/
def wireCode (cr : CodingRate) : UInt8 := UInt8.ofNat (cr.number - 1)

/-- The coding rate of a number. -/
def ofCode? (code : UInt8) : Option CodingRate :=
  all.find? fun x ↦ x.code == code

/-- The coding rate of a code in a request. -/
def ofWireCode? (code : UInt8) : Option CodingRate :=
  if code.toNat < 7 then ofCode? (code + 1) else none

/-- Whether the rate interleaves over more than eight symbols. -/
def isLong : CodingRate → Bool
  | standard45 | standard46 | standard47 | standard48 => false
  | long45 | long46 | long48 => true

/-- The name of a coding rate. -/
def name : CodingRate → String
  | standard45 => "Cr4_5"
  | standard46 => "Cr4_6"
  | standard47 => "Cr4_7"
  | standard48 => "Cr4_8"
  | long45 => "Li4_5"
  | long46 => "Li4_6"
  | long48 => "Li4_8"

/-- The code of a coding rate is read back. -/
@[simp]
theorem ofCode?_code (cr : CodingRate) : ofCode? cr.code = some cr := by
  cases cr <;> decide

@[simp]
theorem ofWireCode?_wireCode (cr : CodingRate) : ofWireCode? cr.wireCode = some cr := by
  cases cr <;> decide

theorem wireCode_inj {a b : CodingRate} : a.wireCode = b.wireCode ↔ a = b := by
  constructor
  · intro h
    have := congrArg ofWireCode? h
    simpa using this
  · rintro rfl
    rfl

end CodingRate

/-! ### Transmission mode -/

/-- When a transmission starts. -/
inductive TxMode
  | timestamped
  | immediate
  | onGps
  | carrierOn
  | carrierOff
  deriving DecidableEq, Repr

namespace TxMode

/-- Every value, in the order of its codes. -/
def all : List TxMode :=
  [timestamped, immediate, onGps, carrierOn, carrierOff]

/-- The code of a mode. -/
def code : TxMode → UInt8
  | timestamped => 0
  | immediate => 1
  | onGps => 2
  | carrierOn => 3
  | carrierOff => 4

/-- The mode of a code. -/
def ofCode? (code : UInt8) : Option TxMode :=
  all.find? fun x ↦ x.code == code

/-- The code of a transmission mode is read back. -/
@[simp]
theorem ofCode?_code (m : TxMode) : ofCode? m.code = some m := by
  cases m <;> decide

theorem code_inj {a b : TxMode} : a.code = b.code ↔ a = b := by
  constructor
  · intro h
    have := congrArg ofCode? h
    simpa using this
  · rintro rfl
    rfl

end TxMode

/-! ### Received packets -/

/-- What the payload check of a received packet found. -/
inductive CrcStatus
  | undefined
  | absent
  | bad
  | good
  deriving DecidableEq, Repr

namespace CrcStatus

/-- The code of a check result. -/
def code : CrcStatus → UInt8
  | undefined => 0x00
  | absent => 0x01
  | bad => 0x11
  | good => 0x10

/-- The name of a check result. -/
def name : CrcStatus → String
  | undefined => "Undefined"
  | absent => "NoCrc"
  | bad => "CrcBad"
  | good => "CrcOk"

end CrcStatus

/-- The modulation of a received packet. -/
inductive Modulation
  | lora
  deriving DecidableEq, Repr

/-- The name of a modulation. -/
def Modulation.name : Modulation → String
  | lora => "LoRa"

end LoraConcentrator
