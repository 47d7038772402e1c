import LoraConcentrator.Binary.Format

/-!
# Shortest decimal digits

The decimal digits of a floating-point number are the fewest that read back as the same number and,
among those, the nearest to it; of two equally near ones a `Tie` decides. A positive number
`m * 2 ^ q` is the rounding of every real between the midpoints to its two neighbours, and of the
midpoints themselves when `m` is even; for one digit, two digits and so on the two multiples of the
decimal unit around the number are tested against that interval, in exact arithmetic.
-/

namespace LoraConcentrator.Decimal

-- Powers of natural numbers are those of the core library.
attribute [local instance (2000)] instPowNat instNatPowNat

open Binary

/-- The decimal number `0.d₁d₂… * 10 ^ point`: digits below ten, neither first nor last of them
zero. -/
structure Digits where
  digits : List Nat
  point : Int
  deriving DecidableEq, Repr

/-- Which of two neighbours stands for a number halfway between them. -/
inductive Tie
  | even
  /-- The one farther from zero. -/
  | away
  deriving DecidableEq, Repr

/-- The neighbour that stands for a number halfway between `below` and `below + 1`. -/
def Tie.choose : Tie → (below : Nat) → Nat
  | even, below => if below % 2 = 0 then below else below + 1
  | away, below => below + 1

/-- The reals that round to a positive number, all as multiples of `1 / denominator`. -/
structure Interval where
  low : Nat
  value : Nat
  high : Nat
  denominator : Nat
  /-- Whether the two ends round to the number as well. -/
  closed : Bool
  deriving DecidableEq, Repr

/-- The interval of the number `m * 2 ^ q` of a format. The distance to the neighbour below is
halved where `m` is the least significand with a leading one. -/
def Interval.of (fmt : Format) (m : Nat) (q : Int) : Interval :=
  let below := if m = 2 ^ fmt.fractionBits ∧ q ≠ fmt.minExponent then 1 else 2
  let exponent := q - 2
  let scale := if exponent ≥ 0 then 2 ^ exponent.toNat else 1
  let denominator := if exponent ≥ 0 then 1 else 2 ^ (-exponent).toNat
  { low := (4 * m - below) * scale
    value := 4 * m * scale
    high := (4 * m + 2) * scale
    denominator := denominator
    closed := m % 2 = 0 }

/-- Whether `n * unit / 1` lies in the interval, for `unit = num / den`. -/
def Interval.holds (i : Interval) (n num den : Nat) : Bool :=
  let x := n * num * i.denominator
  if i.closed then decide (i.low * den ≤ x ∧ x ≤ i.high * den)
  else decide (i.low * den < x ∧ x < i.high * den)

/-- The multiple of `num / den` nearest to the value among the two around it that lie in the
interval. -/
def Interval.pick (i : Interval) (tie : Tie) (num den : Nat) : Option Nat :=
  let below := i.value * den / (num * i.denominator)
  let remainder := i.value * den % (num * i.denominator)
  let above := below + 1
  match i.holds below num den, i.holds above num den with
  | true, true =>
    let twice := 2 * remainder
    let width := num * i.denominator
    if twice < width then some below
    else if twice > width then some above
    else some (tie.choose below)
  | true, false => some below
  | false, true => some above
  | false, false => none

/-- The least `k` with `value < 10 ^ k`, found by walking from a lower bound. -/
def pointFrom (num den : Nat) : (fuel : Nat) → Int → Int
  | 0, k => k
  | fuel + 1, k =>
    let below := if k ≥ 0 then decide (num < den * 10 ^ k.toNat)
      else decide (num * 10 ^ (-k).toNat < den)
    if below then k else pointFrom num den fuel (k + 1)

/-- The position of the point of `num / den`: the least `k` with `num / den < 10 ^ k`. -/
def point (num den : Nat) : Int :=
  let bits : Int := (num.log2 : Int) - den.log2 - 1
  -- a decimal digit holds between three and four bits, so the walk is short
  pointFrom num den ((bits.natAbs / 10) + 8) (bits * 3 / 10 - (bits.natAbs / 100 : Nat) - 1)

/-- Decimal digits of `n`, most significant first. -/
def digitsOf (n : Nat) : List Nat :=
  (Nat.toDigits 10 n).map fun c ↦ c.toNat - '0'.toNat

/-- Drops the zeros that end a list of digits. -/
def dropTrailingZeros (ds : List Nat) : List Nat :=
  (ds.reverse.dropWhile (· == 0)).reverse

/-- The digits of `n` units of `10 ^ unit`. -/
def Digits.ofMultiple (n : Nat) (unit : Int) : Digits :=
  let ds := digitsOf n
  { digits := dropTrailingZeros ds, point := unit + ds.length }

/-- Tries ever smaller decimal units until one has a multiple in the interval. -/
def search (i : Interval) (tie : Tie) (unit : Int) : (fuel : Nat) → Digits
  | 0 => ⟨[], 0⟩
  | fuel + 1 =>
    let num := if unit ≥ 0 then 10 ^ unit.toNat else 1
    let den := if unit ≥ 0 then 1 else 10 ^ (-unit).toNat
    match i.pick tie num den with
    | some n => if n = 0 then search i tie (unit - 1) fuel else Digits.ofMultiple n unit
    | none => search i tie (unit - 1) fuel

/-- The shortest digits of the positive number `m * 2 ^ q` of a format. -/
def shortest (fmt : Format) (tie : Tie) (m : Nat) (q : Int) : Digits :=
  let i := Interval.of fmt m q
  search i tie (point i.value i.denominator - 1) 20

end LoraConcentrator.Decimal
