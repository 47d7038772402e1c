import LoraConcentrator.Decimal.Shortest

/-!
# Layouts of decimal numbers

Shortest digits are laid out in one of several ways: with every zero written, or with an exponent
when the number is very large or very small. A `Layout` says which; `Layout.text` writes a bit
pattern of a format. Fixed numbers of places are written by `fixed`, which rounds the exact value
and sends a half to the even neighbour.
-/

namespace LoraConcentrator.Decimal

-- Powers of natural numbers are those of the core library.
attribute [local instance (2000)] instPowNat instNatPowNat

open Binary

/-- How the shortest digits of a number are written. -/
structure Layout where
  /-- Which digits are written where two numbers of as few digits are equally near. -/
  tie : Tie
  /-- The powers of ten of the first digit from the least to the greatest that is written without an
  exponent, if there are bounds. -/
  plain : Option (Int × Int)
  /-- What follows the digits of a whole number. -/
  whole : String
  /-- What stands for an infinity after its sign, and for no number. -/
  infinity : String
  nan : String
  deriving Repr

/-- The characters of digits below ten. -/
def characters (ds : List Nat) : String :=
  String.ofList (ds.map Nat.digitChar)

/-- Digits with every zero written. -/
def plainText (layout : Layout) (d : Digits) : String :=
  let count : Int := d.digits.length
  if d.point ≤ 0 then
    "0." ++ characters (List.replicate (-d.point).toNat 0 ++ d.digits)
  else if d.point ≥ count then
    characters (d.digits ++ List.replicate (d.point - count).toNat 0) ++ layout.whole
  else
    characters (d.digits.take d.point.toNat) ++ "." ++ characters (d.digits.drop d.point.toNat)

/-- Digits with one digit before the point and a signed exponent. -/
def exponentText (d : Digits) : String :=
  let power := d.point - 1
  let sign := if power < 0 then "-" else "+"
  let fraction := d.digits.drop 1
  let mantissa := characters (d.digits.take 1) ++
    (if fraction.isEmpty then "" else "." ++ characters fraction)
  mantissa ++ "e" ++ sign ++ toString power.natAbs

/-- The digits as the layout writes them. -/
def Layout.digitsText (layout : Layout) (d : Digits) : String :=
  match layout.plain with
  | none => plainText layout d
  | some (least, greatest) =>
    if least ≤ d.point - 1 ∧ d.point - 1 ≤ greatest then plainText layout d else exponentText d

/-- The text of a sign. -/
def signText (negative : Bool) : String := if negative then "-" else ""

/-- The text of a bit pattern of a format. -/
def Layout.text (layout : Layout) (fmt : Format) (bits : Nat) : String :=
  match fmt.decode bits with
  | .nan .. => layout.nan
  | .infinite negative => signText negative ++ layout.infinity
  | .finite negative m q =>
    signText negative ++
      (if m = 0 then "0" ++ layout.whole else layout.digitsText (shortest fmt layout.tie m q))

/-! ### Fixed places -/

/-- The multiple of `10 ^ -places` nearest to `m * 2 ^ q`, a half going to the even neighbour. -/
def roundPlaces (places m : Nat) (q : Int) : Nat :=
  if q ≥ 0 then m * 10 ^ places * 2 ^ q.toNat
  else Format.nearest (m * 10 ^ places) (2 ^ (-q).toNat)

/-- `n` units of `10 ^ -places` with exactly that many places, at least one. -/
def placesText (places n : Nat) : String :=
  let fraction := n % 10 ^ places
  let digits := Nat.toDigits 10 fraction
  toString (n / 10 ^ places) ++ "." ++
    String.ofList (List.replicate (places - digits.length) '0' ++ digits)

/-- The text of a bit pattern of a format with a fixed number of places. -/
def fixed (places : Nat) (fmt : Format) (bits : Nat) : String :=
  match fmt.decode bits with
  | .nan .. => "NaN"
  | .infinite negative => signText negative ++ "inf"
  | .finite negative m q => signText negative ++ placesText places (roundPlaces places m q)

end LoraConcentrator.Decimal
