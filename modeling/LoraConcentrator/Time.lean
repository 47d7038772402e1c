/-!
# Durations

Time-outs, polling intervals and clock readings are counts of nanoseconds. The text of a duration
names the largest unit it reaches and drops the zeros that end its fraction (`Duration.text`).
-/

namespace LoraConcentrator

/-- A length of time, or a clock reading since the clock was started. -/
structure Duration where
  nanos : Nat := 0
  deriving DecidableEq, Repr, Inhabited

namespace Duration

/-- A count of microseconds. -/
def ofMicros (n : Nat) : Duration := ⟨n * 1000⟩

/-- A count of milliseconds. -/
def ofMillis (n : Nat) : Duration := ⟨n * 1000000⟩

/-- Whole microseconds. -/
def toMicros (d : Duration) : Nat := d.nanos / 1000

/-- Whole milliseconds. -/
def toMillis (d : Duration) : Nat := d.nanos / 1000000

instance : Add Duration := ⟨fun a b ↦ ⟨a.nanos + b.nanos⟩⟩

/-- The time from `b` to `a`, zero when `a` is the earlier. -/
instance : Sub Duration := ⟨fun a b ↦ ⟨a.nanos - b.nanos⟩⟩

instance : LE Duration := ⟨fun a b ↦ a.nanos ≤ b.nanos⟩

instance : LT Duration := ⟨fun a b ↦ a.nanos < b.nanos⟩

instance (a b : Duration) : Decidable (a ≤ b) := inferInstanceAs (Decidable (a.nanos ≤ b.nanos))

instance (a b : Duration) : Decidable (a < b) := inferInstanceAs (Decidable (a.nanos < b.nanos))

@[simp] theorem nanos_add (a b : Duration) : (a + b).nanos = a.nanos + b.nanos := rfl

@[simp] theorem nanos_sub (a b : Duration) : (a - b).nanos = a.nanos - b.nanos := rfl

end Duration

/-- A length of time that is not zero. -/
structure Lapse extends Duration where
  pos : 0 < nanos
  deriving DecidableEq, Repr

namespace Duration

/-- The time that waiting so long takes: some of it, however short the wait. -/
def lapse (d : Duration) : Lapse := ⟨⟨max 1 d.nanos⟩, Nat.le_max_left 1 d.nanos⟩

/-! ### Text -/

-- Powers of natural numbers are those of the core library.
attribute [local instance (2000)] instPowNat instNatPowNat

/-- `width` decimal digits of `n`, zeros in front. -/
def padded : (width : Nat) → (n : Nat) → List Char
  | 0, _ => []
  | width + 1, n => padded width (n / 10) ++ [Nat.digitChar (n % 10)]

/-- The digits of a fraction without the zeros that end it. -/
def trimmed (digits : List Char) : List Char :=
  (digits.reverse.dropWhile (· == '0')).reverse

/-- `n` units of `10 ^ -places`, written with a point only when a fraction is left. -/
def decimal (places n : Nat) : String :=
  let fraction := trimmed (padded places (n % 10 ^ places))
  let whole := toString (n / 10 ^ places)
  if fraction.isEmpty then whole else whole ++ "." ++ String.ofList fraction

/-- The text of a duration in the largest unit it reaches. -/
def text (d : Duration) : String :=
  if d.nanos ≥ 1000000000 then decimal 9 d.nanos ++ "s"
  else if d.nanos ≥ 1000000 then decimal 6 d.nanos ++ "ms"
  else if d.nanos ≥ 1000 then decimal 3 d.nanos ++ "µs"
  else toString d.nanos ++ "ns"

end Duration

end LoraConcentrator
