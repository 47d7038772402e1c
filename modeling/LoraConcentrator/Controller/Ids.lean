/-!
# Correlation ids

Every request carries an id that its reply repeats. Ids come from a multiplicative congruential
generator with a state of 128 bits, whose output is the folded state turned right by its own top
bits; 32 bits of output are scaled to the ids below 255, and an output that would favour some ids is
drawn again. The generator starts from the same state in every session, so a session can be
reproduced. Main statement: every id is below 255 (`IdSource.next_lt`).
-/

namespace LoraConcentrator

/-- The source of correlation ids. -/
structure IdSource where
  /-- Below `2 ^ 128`. -/
  state : Nat
  deriving DecidableEq, Repr

namespace IdSource

-- Powers of natural numbers are those of the core library.
attribute [local instance (2000)] instPowNat instNatPowNat

/-- The number of words of `width` bits. -/
def words (width : Nat) : Nat := 2 ^ width

/-- A number of `width` bits turned right. -/
def rotateRight (width n amount : Nat) : Nat :=
  (n / words amount + n * words (width - amount)) % words width

/-! ### The first state -/

/-- One step of the generator that fills the first state. -/
def seedStep (s : Nat) : Nat :=
  (s * 6364136223846793005 + 11634580027462260723) % words 64

/-- The 32 bits that a state of that generator gives. -/
def seedWord (s : Nat) : Nat :=
  rotateRight 32 (((s / words 18) ^^^ s) / words 27 % words 32) (s / words 59)

/-- The number whose words of 32 bits, least significant first, come from that generator. -/
def seedWords : (count : Nat) → (s : Nat) → Nat
  | 0, _ => 0
  | count + 1, s => seedWord (seedStep s) + words 32 * seedWords count (seedStep s)

/-- The source a session starts with. The state of the generator is odd. -/
def initial : IdSource := ⟨seedWords 4 0 ||| 1⟩

/-! ### Drawing -/

/-- The state after the next output. -/
def step (s : Nat) : Nat :=
  s * 0x2360ED051FC65DA44385DF649FCCF645 % words 128

/-- The low 32 bits of the output of a state. -/
def output (s : Nat) : Nat :=
  rotateRight 64 ((s / words 64 ^^^ s) % words 64) (s / words 122) % words 32

/-- The number of ids. -/
def idCount : Nat := 255

/-- Whether an output is drawn again. -/
def isBiased (out : Nat) : Bool := decide (0xFFFFFFFE < out * idCount % words 32)

/-- The id of an output. -/
def scale (out : Nat) : Nat := out * idCount / words 32

/-- Draws until an output is not biased. One output in `2 ^ 32` is, so `tries` is never used up. -/
def draw : (tries : Nat) → (s : Nat) → Nat × Nat
  | 0, s => (scale (output (step s)), step s)
  | tries + 1, s =>
    if isBiased (output (step s)) then draw tries (step s)
    else (scale (output (step s)), step s)

/-- How often an output is drawn again. -/
def maxTries : Nat := 64

/-- The next id, with the source afterwards. A source at zero, which no odd one becomes, stays
there. -/
def next (source : IdSource) : UInt8 × IdSource :=
  match source.state with
  | 0 => (0, source)
  | s + 1 =>
    let drawn := draw maxTries (s + 1)
    (UInt8.ofNat drawn.1, ⟨drawn.2⟩)

/-- The source after a number of draws. -/
def after : (draws : Nat) → IdSource → IdSource
  | 0, source => source
  | draws + 1, source => after draws source.next.2

/-! ### Ids are below 255 -/

theorem output_lt (s : Nat) : output s < words 32 := Nat.mod_lt _ (by decide)

theorem scale_lt {out : Nat} (h : out < words 32) : scale out < idCount := by
  have hw : words 32 = 4294967296 := rfl
  unfold scale idCount
  rw [hw] at h ⊢
  omega

/-- An id that is drawn is below 255. -/
theorem draw_lt (tries s : Nat) : (draw tries s).1 < idCount := by
  induction tries generalizing s with
  | zero => exact scale_lt (output_lt _)
  | succ tries ih =>
    rw [draw]
    split
    · exact ih _
    · exact scale_lt (output_lt _)

/-- Every id is below 255. -/
theorem next_lt (source : IdSource) : source.next.1.toNat < idCount := by
  unfold next
  split
  · show (0 : UInt8).toNat < idCount
    decide
  · rename_i s _
    have h := draw_lt maxTries (s + 1)
    generalize draw maxTries (s + 1) = drawn at h
    show (UInt8.ofNat drawn.1).toNat < idCount
    unfold idCount at *
    rw [UInt8.toNat_ofNat']
    omega

end IdSource

end LoraConcentrator
