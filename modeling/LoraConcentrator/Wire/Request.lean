import LoraConcentrator.Wire.Frame

/-!
# Requests

A request is a code and, for six of the eleven, a payload of fixed layout; only the packet to send
has a part of variable length, announced by the byte before it. `Request.payload` writes the payload
and `Request.ofPayload` reads it, which is what the device does with it. Bytes after the layout are
ignored by the reader. Main statement: reading what was written gives the request again
(`Request.ofPayload_payload`).
-/

namespace LoraConcentrator

open Binary

/-- What a receive radio is told to listen to. Codes are kept as they stand in the request. -/
structure RxSetup where
  radio : UInt8
  freqHz : UInt32
  spreading : UInt8
  bandwidth : UInt8
  preamble : UInt16
  iqInverted : Bool
  syncWord : UInt8
  deriving DecidableEq, Repr

/-- A packet handed to the transmit radio. Codes are kept as they stand in the request. -/
structure TxSetup where
  mode : UInt8
  countUs : UInt32
  freqHz : UInt32
  power : Int8
  spreading : UInt8
  bandwidth : UInt8
  invertPolarity : Bool
  coding : UInt8
  noHeader : Bool
  useCrc : Bool
  ramp : UInt8
  preamble : UInt16
  syncWord : UInt8
  payload : Payload
  deriving DecidableEq, Repr

/-- The code of the power ramp of twenty microseconds. -/
def TxSetup.ramp20us : UInt8 := 0xE0

/-- How a packet is handed to the transmit radio. -/
def TxPacket.setup (p : TxPacket) : TxSetup where
  mode := p.mode.code
  countUs := p.countUs
  freqHz := p.freqHz
  power := p.power
  spreading := p.spreading.code
  bandwidth := p.bandwidth.code
  invertPolarity := p.invertPolarity
  coding := p.coding.wireCode
  noHeader := p.noHeader
  useCrc := !p.noCrc
  ramp := TxSetup.ramp20us
  preamble := p.preamble
  syncWord := p.syncWord
  payload := p.payload

/-- How a channel is handed to a receive radio. -/
def RxChannel.setup (channel : RxChannel) (radio : UInt8) : RxSetup where
  radio := radio
  freqHz := channel.freqHz
  spreading := channel.spreading.code
  bandwidth := channel.bandwidth.code
  preamble := standardPreamble
  iqInverted := false
  syncWord := channel.syncWord

/-- A request to the device. -/
inductive Request
  | ping
  | configRx (setup : RxSetup)
  | prepareTx (setup : TxSetup)
  | getStatus
  | bootloader
  | getRxMessages
  | getTxStatus
  | reset (target : ResetTarget)
  | setRssiCoefficient (radio : UInt8) (coefficient : Single)
  | readRegister (radio : UInt8) (address : UInt16)
  | writeRegister (radio : UInt8) (address : UInt16) (value : UInt8)
  deriving DecidableEq, Repr

namespace Request

/-- The code of a request. -/
def code : Request → RequestCode
  | ping => .ping
  | configRx _ => .configRx
  | prepareTx _ => .prepareTx
  | getStatus => .getStatus
  | bootloader => .bootloader
  | getRxMessages => .getRxMessages
  | getTxStatus => .getTxStatus
  | reset _ => .reset
  | setRssiCoefficient .. => .setRssiCoefficient
  | readRegister .. => .readRegister
  | writeRegister .. => .writeRegister

/-- The reply that answers a request. -/
def reply (r : Request) : ReplyCode := r.code.reply

/-! ### Writing -/

/-- A truth value as a byte. -/
def flag (b : Bool) : UInt8 := if b then 1 else 0

/-- The payload of a receive radio's setup. -/
def rxSetupBytes (s : RxSetup) : Bytes :=
  s.radio :: BigEndian.encode32 s.freqHz ++ s.spreading :: s.bandwidth ::
    BigEndian.encode16 s.preamble ++ [flag s.iqInverted, s.syncWord]

/-- The payload of a packet to send. -/
def txSetupBytes (s : TxSetup) : Bytes :=
  s.mode :: BigEndian.encode32 s.countUs ++ BigEndian.encode32 s.freqHz ++
    s.power.toUInt8 :: s.spreading :: s.bandwidth :: flag s.invertPolarity :: s.coding ::
    flag s.noHeader :: flag s.useCrc :: s.ramp :: BigEndian.encode16 s.preamble ++
    s.syncWord :: UInt8.ofNat s.payload.size :: s.payload.bytes

/-- The payload of a request. Only the reset of a radio that no board has cannot be written. -/
def payload : Request → Except Error Bytes
  | ping | getStatus | bootloader | getRxMessages | getTxStatus => .ok []
  | configRx setup => .ok (rxSetupBytes setup)
  | prepareTx setup => .ok (txSetupBytes setup)
  | reset target => target.code.map fun code ↦ [code]
  | setRssiCoefficient radio coefficient =>
    .ok (radio :: BigEndian.encode32 coefficient.bits)
  | readRegister radio address => .ok (radio :: BigEndian.encode16 address)
  | writeRegister radio address value =>
    .ok (radio :: BigEndian.encode16 address ++ [value])

/-! ### The request buffer

The host keeps one buffer for all its requests. It takes the payload part by part and refuses a part
that does not fit. -/

/-- The parts of the payload of a request, in the order in which they go into the buffer. -/
def parts : Request → Except Error (List Bytes)
  | ping | getStatus | bootloader | getRxMessages | getTxStatus => .ok []
  | configRx s =>
    .ok [[s.radio], BigEndian.encode32 s.freqHz, [s.spreading, s.bandwidth],
      BigEndian.encode16 s.preamble, [flag s.iqInverted, s.syncWord]]
  | prepareTx s =>
    .ok [[s.mode], BigEndian.encode32 s.countUs, BigEndian.encode32 s.freqHz,
      [s.power.toUInt8, s.spreading, s.bandwidth, flag s.invertPolarity, s.coding,
        flag s.noHeader, flag s.useCrc, s.ramp],
      BigEndian.encode16 s.preamble, [s.syncWord, UInt8.ofNat s.payload.size], s.payload.bytes]
  | reset target => target.code.map fun code ↦ [[code]]
  | setRssiCoefficient radio coefficient => .ok [[radio], BigEndian.encode32 coefficient.bits]
  | readRegister radio address => .ok [[radio], BigEndian.encode16 address]
  | writeRegister radio address value => .ok [[radio], BigEndian.encode16 address, [value]]

/-- Appends parts to what a request buffer holds, up to one that does not fit. -/
def push : List Bytes → (held : Bytes) → Except Error Unit × Bytes
  | [], held => (.ok (), held)
  | part :: parts, held =>
    if held.length + part.length ≤ requestCapacity then push parts (held ++ part)
    else (.error (.requestTooLarge (held.length + part.length) requestCapacity), held)

/-- Replaces the content of a request buffer by the payload of a request. What the buffer held is
dropped first, so a request that cannot be written leaves it empty. -/
def fill (r : Request) (_held : Bytes) : Except Error Unit × Bytes :=
  match r.parts with
  | .ok parts => push parts []
  | .error e => (.error e, [])

/-! ### Reading -/

/-- The setup of a receive radio, if there are bytes enough. -/
def readRxSetup? : Bytes → Option RxSetup
  | radio :: f3 :: f2 :: f1 :: f0 :: spreading :: bandwidth :: p1 :: p0 :: iq :: sync :: _ =>
    some
      { radio := radio
        freqHz := BigEndian.decode32 f3 f2 f1 f0
        spreading := spreading
        bandwidth := bandwidth
        preamble := BigEndian.decode16 p1 p0
        iqInverted := iq != 0
        syncWord := sync }
  | _ => none

/-- The fields before the payload of a packet to send, with the size they announce and the bytes
after them. The payload field is left empty. -/
def readTxHead? : Bytes → Option (TxSetup × Nat × Bytes)
  | mode :: c3 :: c2 :: c1 :: c0 :: f3 :: f2 :: f1 :: f0 :: power :: spreading :: bandwidth ::
      invert :: coding :: noHeader :: useCrc :: ramp :: p1 :: p0 :: sync :: size :: rest =>
    some
      ({ mode := mode
         countUs := BigEndian.decode32 c3 c2 c1 c0
         freqHz := BigEndian.decode32 f3 f2 f1 f0
         power := power.toInt8
         spreading := spreading
         bandwidth := bandwidth
         invertPolarity := invert != 0
         coding := coding
         noHeader := noHeader != 0
         useCrc := useCrc != 0
         ramp := ramp
         preamble := BigEndian.decode16 p1 p0
         syncWord := sync
         payload := .empty }, size.toNat, rest)
  | _ => none

/-- The payload bytes a layout needs before any part of variable length. -/
def fixedSize : RequestCode → Nat
  | .ping | .getStatus | .bootloader | .getRxMessages | .getTxStatus => 0
  | .configRx => 11
  | .prepareTx => 21
  | .reset => 1
  | .setRssiCoefficient => 5
  | .readRegister => 3
  | .writeRegister => 4

/-- The error of a payload too short for its layout. -/
def tooShort (code : RequestCode) (bs : Bytes) (needed : Nat) : Except Error Request :=
  .error (.malformedRequest code bs.length needed)

/-- The request of a code and a payload. -/
def ofPayload (code : RequestCode) (bs : Bytes) : Except Error Request :=
  match code with
  | .ping => .ok ping
  | .getStatus => .ok getStatus
  | .bootloader => .ok bootloader
  | .getRxMessages => .ok getRxMessages
  | .getTxStatus => .ok getTxStatus
  | .configRx =>
    match readRxSetup? bs with
    | some setup => .ok (configRx setup)
    | none => tooShort code bs (fixedSize code)
  | .prepareTx =>
    match readTxHead? bs with
    | none => tooShort code bs (fixedSize code)
    | some (setup, size, rest) =>
      if rest.length < size then tooShort code bs (fixedSize code + size)
      else (Payload.ofBytes (rest.take size)).map fun p ↦ prepareTx { setup with payload := p }
  | .reset =>
    match bs with
    | target :: _ => (ResetTarget.ofCode target).map reset
    | [] => tooShort code bs (fixedSize code)
  | .setRssiCoefficient =>
    match bs with
    | radio :: c3 :: c2 :: c1 :: c0 :: _ =>
      .ok (setRssiCoefficient radio ⟨BigEndian.decode32 c3 c2 c1 c0⟩)
    | _ => tooShort code bs (fixedSize code)
  | .readRegister =>
    match bs with
    | radio :: a1 :: a0 :: _ => .ok (readRegister radio (BigEndian.decode16 a1 a0))
    | _ => tooShort code bs (fixedSize code)
  | .writeRegister =>
    match bs with
    | radio :: a1 :: a0 :: value :: _ =>
      .ok (writeRegister radio (BigEndian.decode16 a1 a0) value)
    | _ => tooShort code bs (fixedSize code)

/-! ### Comparison and text -/

/-- Whether two requests say the same: the fields are equal, and a coefficient that is no number
differs from every coefficient. -/
def same : Request → Request → Bool
  | setRssiCoefficient radio x, setRssiCoefficient radio' y => radio == radio' && x.same y
  | setRssiCoefficient .., _ | _, setRssiCoefficient .. => false
  | a, b => a == b

/-- Coefficients are shown with every digit and without an exponent, a half going away from zero. -/
def coefficientNumber : Decimal.Layout := ⟨.away, none, "", "inf", "NaN"⟩

/-- The request with its fields. -/
def inspect : Request → String
  | ping => "Ping"
  | configRx s =>
    Text.wrapped "ConfigRx" <| Text.fields "ConfigRx"
      [("radio", toString s.radio.toNat), ("freq_hz", toString s.freqHz.toNat),
        ("datarate", toString s.spreading.toNat), ("bandwidth", toString s.bandwidth.toNat),
        ("preamble", toString s.preamble.toNat), ("iq_inverted", toString s.iqInverted),
        ("sync_word", toString s.syncWord.toNat)]
  | prepareTx s =>
    Text.fields "PrepareTx"
      [("mode", toString s.mode.toNat), ("count_us", toString s.countUs.toNat),
        ("freq_hz", toString s.freqHz.toNat), ("power", toString s.power.toInt),
        ("sf", toString s.spreading.toNat), ("bw", "0x" ++ Hex.lower8 s.bandwidth),
        ("cr", toString s.coding.toNat), ("payload", Hex.listing s.payload.bytes)]
  | getStatus => "GetStatus"
  | bootloader => "Bootloader"
  | getRxMessages => "GetRxMsg"
  | getTxStatus => "GetTxStatus"
  | reset target => Text.wrapped "Reset" target.name
  | setRssiCoefficient radio coefficient =>
    Text.fields "SetCoefTempRssi"
      [("radio", toString radio.toNat),
        ("coefficient", coefficientNumber.text single coefficient.bits.toNat)]
  | readRegister radio address =>
    Text.fields "ReadRegister"
      [("radio", toString radio.toNat), ("addr", "0x" ++ Hex.fixed .small 4 address.toNat)]
  | writeRegister radio address value =>
    Text.fields "WriteRegister"
      [("radio", toString radio.toNat), ("addr", "0x" ++ Hex.fixed .small 4 address.toNat),
        ("value", "0x" ++ Hex.lower8 value)]

/-! ### Reading undoes writing -/

theorem flag_ne_zero (b : Bool) : (flag b != 0) = b := by
  cases b <;> rfl

/-- A receive setup is read back whatever comes after it. -/
theorem readRxSetup?_rxSetupBytes (s : RxSetup) (rest : Bytes) :
    readRxSetup? (rxSetupBytes s ++ rest) = some s := by
  obtain ⟨radio, freqHz, spreading, bandwidth, preamble, iqInverted, syncWord⟩ := s
  simp only [rxSetupBytes, BigEndian.encode32, BigEndian.encode16, List.cons_append,
    List.nil_append, readRxSetup?, BigEndian.decode32_encode32, BigEndian.decode16_encode16,
    flag_ne_zero]

theorem toNat_ofNat_size (p : Payload) : (UInt8.ofNat p.size).toNat = p.size := by
  have h : p.size ≤ 255 := p.length_le
  rw [UInt8.toNat_ofNat']
  omega

/-- The head of a packet is read back, with the bytes of the packet left. -/
theorem readTxHead?_txSetupBytes (s : TxSetup) :
    readTxHead? (txSetupBytes s) =
      some ({ s with payload := .empty }, s.payload.size, s.payload.bytes) := by
  obtain ⟨mode, countUs, freqHz, power, spreading, bandwidth, invert, coding, noHeader, useCrc,
    ramp, preamble, syncWord, payload⟩ := s
  simp only [txSetupBytes, BigEndian.encode32, BigEndian.encode16, List.cons_append,
    List.nil_append, readTxHead?, BigEndian.decode32_encode32, BigEndian.decode16_encode16,
    flag_ne_zero, toNat_ofNat_size, Int8.toInt8_toUInt8]

/-- Reading the payload of a request gives the request again. -/
theorem ofPayload_payload {r : Request} {bs : Bytes} (h : r.payload = .ok bs) :
    ofPayload r.code bs = .ok r := by
  cases r with
  | ping | getStatus | bootloader | getRxMessages | getTxStatus => rfl
  | configRx s =>
    cases h
    have := readRxSetup?_rxSetupBytes s []
    rw [List.append_nil] at this
    simp only [code, ofPayload, this]
  | prepareTx s =>
    cases h
    simp only [code, ofPayload, readTxHead?_txSetupBytes, Payload.size]
    rw [if_neg (Nat.lt_irrefl _), List.take_length, Payload.ofBytes, Payload.ofBytes?_bytes]
    rfl
  | reset target =>
    simp only [payload] at h
    cases hc : target.code with
    | error e =>
      rw [hc] at h
      cases h
    | ok c =>
      rw [hc] at h
      cases h
      have hread := ResetTarget.ofCode?_of_code? (ResetTarget.code_eq_ok_iff.1 hc)
      simp only [code, ofPayload, ResetTarget.ofCode, hread, orFail]
      rfl
  | setRssiCoefficient radio coefficient =>
    cases h
    simp only [code, ofPayload, BigEndian.encode32, BigEndian.decode32_encode32]
  | readRegister radio address =>
    cases h
    simp only [code, ofPayload, BigEndian.encode16, BigEndian.decode16_encode16]
  | writeRegister radio address value =>
    cases h
    simp only [code, ofPayload, BigEndian.encode16, List.cons_append, List.nil_append,
      BigEndian.decode16_encode16]

end Request

end LoraConcentrator
