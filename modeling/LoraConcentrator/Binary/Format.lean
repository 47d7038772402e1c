/-!
# Binary floating-point formats

An interchange format of binary floating-point numbers is fixed by the number of bits of its
significand and of its exponent field. A bit pattern stands for a signed multiple of a power of two,
for an infinity or for no number at all (`Format.decode`); a ratio of natural numbers is rounded to
the nearest pattern, a half going to the even neighbour (`Format.round`). All arithmetic is exact:
sums, products and quotients of patterns are computed on the decoded values and rounded once.
-/

namespace LoraConcentrator.Binary

/-- An interchange format. -/
structure Format where
  /-- Bits of the significand, the leading one included. -/
  precision : Nat
  /-- Bits of the exponent field. -/
  exponentBits : Nat
  deriving DecidableEq, Repr

/-- Thirty-two bit numbers. -/
def single : Format := ⟨24, 8⟩

/-- Sixty-four bit numbers. -/
def double : Format := ⟨53, 11⟩

/-- What a bit pattern stands for. -/
inductive Datum
  /-- No number; the fraction field is kept. -/
  | nan (negative : Bool) (fraction : Nat)
  | infinite (negative : Bool)
  /-- The number `± significand * 2 ^ exponent`. -/
  | finite (negative : Bool) (significand : Nat) (exponent : Int)
  deriving DecidableEq, Repr

namespace Format

-- Powers are those of the core library.
attribute [local instance (2000)] instPowNat instNatPowNat Int.instNatPow

variable (fmt : Format)

/-- Bits of the fraction field. -/
def fractionBits : Nat := fmt.precision - 1

/-- The exponent of the last bit of the smallest numbers. -/
def minExponent : Int := 3 - 2 ^ (fmt.exponentBits - 1) - fmt.precision

/-- The largest value of the exponent field, which marks what is not finite. -/
def topExponent : Nat := 2 ^ fmt.exponentBits - 1

/-- The pattern of positive infinity. -/
def infinity : Nat := fmt.topExponent * 2 ^ fmt.fractionBits

/-- The pattern with only the sign bit set. -/
def signBit : Nat := 2 ^ (fmt.exponentBits + fmt.fractionBits)

/-- Adds the sign to a pattern without one. -/
def withSign (negative : Bool) (magnitude : Nat) : Nat :=
  if negative then fmt.signBit + magnitude else magnitude

/-- What a bit pattern stands for. -/
def decode (bits : Nat) : Datum :=
  let fraction := bits % 2 ^ fmt.fractionBits
  let exponent := bits / 2 ^ fmt.fractionBits % 2 ^ fmt.exponentBits
  let negative := decide (bits / fmt.signBit % 2 = 1)
  if exponent = fmt.topExponent then
    if fraction = 0 then .infinite negative else .nan negative fraction
  else if exponent = 0 then .finite negative fraction fmt.minExponent
  else .finite negative (fraction + 2 ^ fmt.fractionBits) (fmt.minExponent + (exponent - 1 : Nat))

/-! ### Rounding -/

/-- The quotient nearest to `num / den`, a half going to the even neighbour. -/
def nearest (num den : Nat) : Nat :=
  let floor := num / den
  let twice := 2 * (num % den)
  if twice < den then floor
  else if twice > den then floor + 1
  else if floor % 2 = 0 then floor
  else floor + 1

/-- The exponent of the leading bit of `num / den`, for positive `num` and `den`. -/
def leadingExponent (num den : Nat) : Int :=
  let guess : Int := (num.log2 : Int) - den.log2
  let reached :=
    if guess ≥ 0 then den * 2 ^ guess.toNat ≤ num else den ≤ num * 2 ^ (-guess).toNat
  if reached then guess else guess - 1

/-- The pattern nearest to `num / den`, without sign: at least infinity when the ratio is too large
for the format, and infinity then stands for it. -/
def roundMagnitude (num den : Nat) : Nat :=
  if num = 0 then 0
  else
    let exponent := max fmt.minExponent (leadingExponent num den - fmt.fractionBits)
    let significand :=
      if exponent ≥ 0 then nearest num (den * 2 ^ exponent.toNat)
      else nearest (num * 2 ^ (-exponent).toNat) den
    min fmt.infinity ((exponent - fmt.minExponent).toNat * 2 ^ fmt.fractionBits + significand)

/-- The pattern nearest to `± num / den`. -/
def round (negative : Bool) (num den : Nat) : Nat :=
  fmt.withSign negative (fmt.roundMagnitude num den)

/-- The pattern nearest to `± num * 2 ^ exponent`. -/
def roundScaled (negative : Bool) (num : Nat) (exponent : Int) : Nat :=
  if exponent ≥ 0 then fmt.round negative (num * 2 ^ exponent.toNat) 1
  else fmt.round negative num (2 ^ (-exponent).toNat)

/-- The pattern nearest to an integer. -/
def ofInt (n : Int) : Nat :=
  fmt.round (decide (n < 0)) n.natAbs 1

/-! ### Arithmetic -/

/-- The quiet pattern of a pattern that is no number: the first fraction bit is set. -/
def quiet (negative : Bool) (fraction : Nat) : Nat :=
  let first := 2 ^ (fmt.fractionBits - 1)
  fmt.withSign negative (fmt.infinity + (first + fraction % first))

/-- The pattern of an operation without result: quiet, with an empty rest of the fraction. -/
def invalid : Nat := fmt.quiet true 0

/-- The sum of two patterns. A zero sum is negative only when both terms are; where a term is no
number the first such term is the result, made quiet. -/
def add (a b : Nat) : Nat :=
  match fmt.decode a, fmt.decode b with
  | .nan negative fraction, _ => fmt.quiet negative fraction
  | _, .nan negative fraction => fmt.quiet negative fraction
  | .infinite s, .infinite t => if s = t then fmt.withSign s fmt.infinity else fmt.invalid
  | .infinite s, .finite .. => fmt.withSign s fmt.infinity
  | .finite .., .infinite t => fmt.withSign t fmt.infinity
  | .finite s m p, .finite t n q =>
    let exponent := min p q
    let left : Int := m * 2 ^ (p - exponent).toNat
    let right : Int := n * 2 ^ (q - exponent).toNat
    let sum := (if s then -left else left) + (if t then -right else right)
    if sum = 0 then fmt.withSign (s && t) 0
    else fmt.roundScaled (decide (sum < 0)) sum.natAbs exponent

/-- The product of two patterns of finite numbers. -/
def mul (a b : Nat) : Nat :=
  match fmt.decode a, fmt.decode b with
  | .finite s m p, .finite t n q => fmt.roundScaled (s != t) (m * n) (p + q)
  | _, _ => fmt.invalid

/-- The quotient of two patterns of finite numbers, the second not zero. -/
def div (a b : Nat) : Nat :=
  match fmt.decode a, fmt.decode b with
  | .finite s m p, .finite t n q =>
    let exponent := p - q
    if exponent ≥ 0 then fmt.round (s != t) (m * 2 ^ exponent.toNat) n
    else fmt.round (s != t) m (n * 2 ^ (-exponent).toNat)
  | _, _ => fmt.invalid

/-- The pattern in this format nearest to a pattern of another one. -/
def convert (source : Format) (bits : Nat) : Nat :=
  match source.decode bits with
  | .nan negative fraction =>
    fmt.quiet negative (fraction * 2 ^ fmt.fractionBits / 2 ^ source.fractionBits)
  | .infinite negative => fmt.withSign negative fmt.infinity
  | .finite negative m q => fmt.roundScaled negative m q

end Format

end LoraConcentrator.Binary
