import LoraConcentrator.Binary.Single
import LoraConcentrator.Json.Problem

/-!
# Numbers of a JSON text

A number without fraction and exponent that fits sixty-four bits is an integer; every other number
is floating. The digits that fit sixty-four bits make the significand of a floating number, the rest
only its scale, and the significand is multiplied or divided by a rounded power of ten, so the last
bit of the result may differ from that of the nearest number.
-/

namespace LoraConcentrator.Json

-- Powers are those of the core library.
attribute [local instance (2000)] instPowNat instNatPowNat Int.instNatPow

open Binary

/-- A number as it is spelled. -/
structure Numeral where
  negative : Bool
  /-- The digits before the point. -/
  whole : List Char
  /-- The digits after the point, when there is one. -/
  fraction : Option (List Char)
  /-- The exponent, when there is one. -/
  exponent : Option Int
  deriving DecidableEq, Repr

/-- The value of a number. -/
inductive Number
  | integer (n : Int)
  /-- The pattern of a number of sixty-four bits. -/
  | floating (pattern : Nat)
  deriving DecidableEq, Repr

/-- The value of a decimal digit. -/
def digitValue (c : Char) : Nat := c.toNat - '0'.toNat

/-- The number of a list of digits. -/
def decimal (ds : List Char) : Nat :=
  ds.foldl (fun n c ↦ n * 10 + digitValue c) 0

/-- Appends digits to a number while it fits sixty-four bits: the number and the digits left. -/
def absorb (n : Nat) : List Char → Nat × List Char
  | [] => (n, [])
  | c :: cs =>
    if n * 10 + digitValue c < 2 ^ (64 : Nat) then absorb (n * 10 + digitValue c) cs
    else (n, c :: cs)

/-! ### Scaling by powers of ten -/

/-- The greatest power of ten of sixty-four bits. -/
def maxPower : Nat := 308

/-- The pattern nearest to a power of ten. -/
def powerOfTen (k : Nat) : Nat := double.round false (10 ^ k) 1

/-- A pattern divided by `10 ^ k`, in as many steps as needed. -/
def divided (pattern k : Nat) : Nat :=
  if k ≤ maxPower then double.div pattern (powerOfTen k)
  else if pattern = 0 then 0
  else divided (double.div pattern (powerOfTen maxPower)) (k - maxPower)
termination_by k
decreasing_by
  unfold maxPower at *
  omega

/-- The pattern of `significand * 10 ^ exponent`, or nothing when it is too large. -/
def scaled (significand : Nat) (exponent : Int) : Option Nat :=
  if exponent < 0 then some (divided (double.ofInt significand) (-exponent).toNat)
  else if exponent ≤ maxPower then
    let pattern := double.mul (double.ofInt significand) (powerOfTen exponent.toNat)
    if pattern < double.infinity then some pattern else none
  else if significand = 0 then some 0
  else none

/-! ### Values -/

/-- The value of an integer. Zero has no negative, so `-0` is floating. -/
def integerValue (negative : Bool) (n : Nat) : Number :=
  if ¬ negative then .integer n
  else if 0 < n ∧ n ≤ 2 ^ (63 : Nat) then .integer (-n)
  else .floating (double.withSign true (double.ofInt n))

/-- The value of a number, or the fault that it is too large. -/
def Numeral.value (numeral : Numeral) : Except Fault Number :=
  let (significand, left) := absorb 0 numeral.whole
  if left.isEmpty ∧ numeral.fraction.isNone ∧ numeral.exponent.isNone then
    .ok (integerValue numeral.negative significand)
  else
    let fraction := numeral.fraction.getD []
    let (significand, unread) := absorb significand fraction
    let places : Int := fraction.length - unread.length
    match scaled significand (left.length - places + numeral.exponent.getD 0) with
    | some pattern => .ok (.floating (double.withSign numeral.negative pattern))
    | none => .error .numberOutOfRange

/-- The number as a value met. -/
def Number.found : Number → Found
  | integer n => .integer n
  | floating pattern => .floating pattern

/-- The number rounded to thirty-two bits. -/
def Number.single : Number → Single
  | integer n => .ofInt n
  | floating pattern => .ofDouble pattern

end LoraConcentrator.Json
