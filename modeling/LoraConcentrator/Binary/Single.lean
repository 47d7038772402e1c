import LoraConcentrator.Binary.Format

/-!
# Numbers of thirty-two bits

Signal strengths, temperatures and correction factors are binary floating-point numbers of
thirty-two bits. `Single` is their bit pattern, so that equality is equality of patterns and a
number that passes through unchanged keeps every bit; `Single.same` is the comparison of values, by
which zero equals negative zero and what is no number differs from itself.
-/

namespace LoraConcentrator.Binary

/-- A floating-point number of thirty-two bits, as its bit pattern. -/
structure Single where
  bits : UInt32 := 0
  deriving DecidableEq, Repr, Inhabited

namespace Single

/-- The number of a pattern given as a natural number below `2 ^ 32`. -/
def ofPattern (n : Nat) : Single := ⟨UInt32.ofNat n⟩

/-- What the pattern stands for. -/
def datum (x : Single) : Datum := single.decode x.bits.toNat

/-- The number nearest to an integer. -/
def ofInt (n : Int) : Single := ofPattern (single.ofInt n)

/-- The number nearest to a hundredth of an integer. -/
def ofHundredths (n : Int) : Single :=
  ofPattern (single.round (decide (n < 0)) n.natAbs 100)

/-- The number nearest to a number of sixty-four bits, given as its pattern. -/
def ofDouble (pattern : Nat) : Single := ofPattern (single.convert double pattern)

instance : Add Single := ⟨fun x y ↦ ofPattern (single.add x.bits.toNat y.bits.toNat)⟩

/-- Whether two numbers have the same value. -/
def same (x y : Single) : Bool :=
  match x.datum, y.datum with
  | .finite s m p, .finite t n q =>
    if m = 0 ∧ n = 0 then true else decide (s = t ∧ m = n ∧ p = q)
  | .infinite s, .infinite t => s == t
  | _, _ => false

end Single

end LoraConcentrator.Binary
