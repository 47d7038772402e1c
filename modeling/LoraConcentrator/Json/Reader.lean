import LoraConcentrator.Bytes.Hex
import LoraConcentrator.Json.Number

/-!
# Reading JSON

A reader takes a value of an expected kind off the front of a text and stops at the first problem it
meets. What a program expects decides what is a problem: a value of the wrong kind is read far
enough to name it (`Reader.wrongType`), and a value nobody asked for is passed over
(`Reader.skipValue`) by rules that are laxer than those for values that are used. There a number may
be too large and half of a pair of escapes may stand alone, but a number that the text cuts short is
malformed rather than unfinished.
-/

namespace LoraConcentrator.Json

/-- A reader of values; its state is the text not read yet. -/
abbrev Reader := EStateM Problem (List Char)

namespace Reader

-- Powers are those of the core library.
attribute [local instance (2000)] instPowNat instNatPowNat Int.instNatPow

variable {α σ : Type}

/-- Stops at a text that ends too early. -/
def unfinished (what : Unfinished) : Reader α := throw (.unfinished what)

/-- Stops at a break of the grammar. -/
def fault (f : Fault) : Reader α := throw (.malformed f)

/-- Stops at a value that has no place. -/
def misfit (reason : Misfit) : Reader α := throw (.misfit reason)

/-- The outcome of a computation without a text. -/
def ofExcept : Except Problem α → Reader α
  | .ok a => pure a
  | .error problem => throw problem

/-- Repeats a turn until it gives a result. -/
def iterate (turn : σ → Reader (σ ⊕ α)) : (turns : Nat) → σ → Reader α
  | 0, _ => unfinished .value
  | turns + 1, s => do
    match ← turn s with
    | .inl s => iterate turn turns s
    | .inr a => return a

/-- Repeats a turn until it gives a result. A turn that gives none takes a character, so there are
no more turns than characters and one. -/
def loop (turn : σ → Reader (σ ⊕ α)) (s : σ) : Reader α := do
  iterate turn ((← get).length + 1) s

/-! ### Characters -/

/-- The blanks of JSON. -/
def isBlank (c : Char) : Bool := c = ' ' || c = '\n' || c = '\t' || c = '\r'

/-- The next character, if the text has one. -/
def next? : Reader (Option Char) := do return (← get).head?

/-- The next character after blanks, if the text has one. -/
def peek : Reader (Option Char) := do
  modify (List.dropWhile isBlank)
  next?

/-- Takes the next character. -/
def advance : Reader Unit := modify (List.drop 1)

/-- Takes the characters of a word. -/
def word : List Char → Reader Unit
  | [] => return
  | c :: cs => do
    match ← next? with
    | none => unfinished .value
    | some d =>
      if d ≠ c then fault .expectedWord
      advance
      word cs

/-! ### Strings -/

/-- The number of four hexadecimal digits. The text must have room for them; what stands in the room
may be longer characters, which are no digits. -/
def hexUnit (cs : List Char) : Except Problem (Nat × List Char) :=
  if (cs.take 4).foldl (fun n c ↦ n + c.utf8Size) 0 < 4 then .error (.unfinished .string)
  else
    match cs with
    | a :: b :: c :: d :: rest =>
      match Hex.value? a, Hex.value? b, Hex.value? c, Hex.value? d with
      | some a, some b, some c, some d => .ok (((a * 16 + b) * 16 + c) * 16 + d, rest)
      | _, _, _, _ => .error (.malformed .invalidEscape)
    | _ => .error (.malformed .invalidEscape)

/-- Whether a unit is the first half of a pair. -/
def isHigh (unit : Nat) : Bool := 0xD800 ≤ unit && unit < 0xDC00

/-- Whether a unit is the second half of a pair. -/
def isLow (unit : Nat) : Bool := 0xDC00 ≤ unit && unit < 0xE000

/-- The second half of a pair whose first half was read. -/
def lowUnit : List Char → Except Problem (Nat × List Char)
  | [] => .error (.unfinished .string)
  | ['\\'] => .error (.unfinished .string)
  | '\\' :: 'u' :: rest =>
    match hexUnit rest with
    | .ok (unit, rest) =>
      if isLow unit then .ok (unit, rest) else .error (.malformed .loneSurrogate)
    | .error problem => .error problem
  | _ => .error (.malformed .unfinishedSurrogate)

/-- The character of the two halves of a pair. -/
def joined (high low : Nat) : Char :=
  Char.ofNat (0x10000 + (high - 0xD800) * 0x400 + (low - 0xDC00))

/-- The character of an escaped unit. A half that stands alone is no character; where halves need no
partner the replacement character stands for it. -/
def unitEscape (paired : Bool) (unit : Nat) (rest : List Char) :
    Except Problem (Char × List Char) :=
  if ¬ isHigh unit ∧ ¬ isLow unit then .ok (Char.ofNat unit, rest)
  else if ¬ paired then .ok ('\uFFFD', rest)
  else if isLow unit then .error (.malformed .loneSurrogate)
  else
    match lowUnit rest with
    | .ok (low, rest) => .ok (joined unit low, rest)
    | .error problem => .error problem

/-- The character of an escape of one letter. -/
def letterEscape? (c : Char) : Option Char :=
  if c = '"' then some '"'
  else if c = '\\' then some '\\'
  else if c = '/' then some '/'
  else if c = 'b' then some '\x08'
  else if c = 'f' then some '\x0C'
  else if c = 'n' then some '\n'
  else if c = 'r' then some '\r'
  else if c = 't' then some '\t'
  else none

/-- The character of an escape, after its backslash. -/
def escaped (paired : Bool) : List Char → Except Problem (Char × List Char)
  | [] => .error (.unfinished .string)
  | c :: rest =>
    if c = 'u' then
      match hexUnit rest with
      | .ok (unit, rest) => unitEscape paired unit rest
      | .error problem => .error problem
    else
      match letterEscape? c with
      | some d => .ok (d, rest)
      | none => .error (.malformed .invalidEscape)

theorem hexUnit_length {cs rest : List Char} {unit : Nat} (h : hexUnit cs = .ok (unit, rest)) :
    rest.length < cs.length := by
  unfold hexUnit at h
  split at h
  · cases h
  · split at h
    · split at h
      · cases h
        simp only [List.length_cons]
        omega
      · cases h
    · cases h

theorem lowUnit_length {cs rest : List Char} {unit : Nat} (h : lowUnit cs = .ok (unit, rest)) :
    rest.length < cs.length := by
  unfold lowUnit at h
  split at h
  · cases h
  · cases h
  · split at h
    · next hu =>
      split at h
      · cases h
        have := hexUnit_length hu
        simp only [List.length_cons]
        omega
      · cases h
    · cases h
  · cases h

theorem unitEscape_length {paired : Bool} {unit : Nat} {cs rest : List Char} {c : Char}
    (h : unitEscape paired unit cs = .ok (c, rest)) : rest.length ≤ cs.length := by
  unfold unitEscape at h
  split at h
  · cases h
    exact Nat.le_refl _
  · split at h
    · cases h
      exact Nat.le_refl _
    · split at h
      · cases h
      · split at h
        · next hl =>
          rw [Except.ok.injEq, Prod.mk.injEq] at h
          exact h.2 ▸ Nat.le_of_lt (lowUnit_length hl)
        · cases h

/-- An escape takes characters. -/
theorem escaped_length {paired : Bool} {cs rest : List Char} {c : Char}
    (h : escaped paired cs = .ok (c, rest)) : rest.length < cs.length := by
  unfold escaped at h
  split at h
  · cases h
  · split at h
    · split at h
      · next hu =>
        have h₁ := hexUnit_length hu
        have h₂ := unitEscape_length h
        simp only [List.length_cons]
        omega
      · cases h
    · split at h
      · cases h
        simp
      · cases h

/-- The characters of a string, after its opening quotation mark. -/
def stringBody (paired : Bool) (cs : List Char) : Except Problem (List Char × List Char) :=
  match cs with
  | [] => .error (.unfinished .string)
  | c :: cs =>
    if c = '"' then .ok ([], cs)
    else if c = '\\' then
      match he : escaped paired cs with
      | .ok (d, rest) =>
        have := escaped_length he
        match stringBody paired rest with
        | .ok (ds, rest) => .ok (d :: ds, rest)
        | .error problem => .error problem
      | .error problem => .error problem
    else if c < ' ' then .error (.malformed .controlCharacter)
    else
      match stringBody paired cs with
      | .ok (ds, rest) => .ok (c :: ds, rest)
      | .error problem => .error problem
termination_by cs.length

/-- Takes a string from its opening quotation mark on. -/
def string (paired : Bool) : Reader String := do
  advance
  let (body, rest) ← ofExcept (stringBody paired (← get))
  set rest
  return String.ofList body

/-! ### Numbers -/

/-- Takes digits. -/
def digits : Reader (List Char) := do
  let cs ← get
  set (cs.dropWhile Char.isDigit)
  return cs.takeWhile Char.isDigit

/-- Takes at least one digit; `atEnd` is the problem when the text ends before it. -/
def digits₁ (atEnd : Problem) : Reader (List Char) := do
  let ds ← digits
  if ds.isEmpty then
    if (← next?).isNone then throw atEnd
    else fault .invalidNumber
  return ds

/-- Takes a character if it is the next one: whether it was. -/
def accept (p : Char → Bool) : Reader Bool := do
  if (← next?).any p then
    advance
    return true
  else return false

/-- Takes the digits before the point. Zero is the only number that starts with zero. -/
def wholeDigits (atEnd : Problem) : Reader (List Char) := do
  let ds ← digits₁ atEnd
  if ds.head? = some '0' ∧ 1 < ds.length then
    fault .invalidNumber
  return ds

/-- Takes a fraction, if there is one. -/
def fraction (atEnd : Problem) : Reader (Option (List Char)) := do
  if ← accept (· == '.') then some <$> digits₁ atEnd
  else return none

/-- Takes an exponent, if there is one. -/
def exponent (atEnd : Problem) : Reader (Option Int) := do
  if ← accept fun c ↦ c == 'e' || c == 'E' then
    let negative := (← next?) = some '-'
    let _ ← accept fun c ↦ c == '+' || c == '-'
    let ds ← digits₁ atEnd
    return some (if negative then -decimal ds else decimal ds)
  else return none

/-- Takes a number as it is spelled. -/
def numeral (atEnd : Problem) : Reader Numeral := do
  let negative ← accept (· == '-')
  let whole ← wholeDigits atEnd
  let fraction ← fraction atEnd
  let exponent ← exponent atEnd
  return ⟨negative, whole, fraction, exponent⟩

/-- Takes a number. -/
def number : Reader Number := do
  match (← numeral (.unfinished .value)).value with
  | .ok n => return n
  | .error f => fault f

/-- Whether a number starts with a character. -/
def startsNumber (c : Char) : Bool := c == '-' || c.isDigit

/-! ### Values of the wrong kind -/

/-- Reads a value far enough to name it. -/
def found : Reader Found := do
  match ← peek with
  | none => unfinished .value
  | some c =>
    if c = 'n' then do
      word "null".toList
      return .null
    else if c = 't' then do
      word "true".toList
      return .boolean true
    else if c = 'f' then do
      word "false".toList
      return .boolean false
    else if c = '"' then .string <$> string true
    else if c = '[' then return .sequence
    else if c = '\x7b' then return .map
    else if startsNumber c then Number.found <$> number
    else fault .expectedValue

/-- Stops at a value of another kind than the expected one. -/
def wrongType (expected : String) : Reader α := do
  misfit (.wrongType (← found) expected)

/-! ### Values without parts -/

/-- Reads a boolean. -/
def boolean : Reader Bool := do
  match ← peek with
  | some 't' => do
    word "true".toList
    return true
  | some 'f' => do
    word "false".toList
    return false
  | _ => wrongType "a boolean"

/-- Reads a string. -/
def text : Reader String := do
  if (← peek) = some '"' then string true
  else wrongType "a string"

/-- Reads a number of an expected kind. -/
def numberFor (expected : String) : Reader Number := do
  if (← peek).any startsNumber then number
  else wrongType expected

/-- Reads a natural number of a width in bits. -/
def natural (width : Nat) : Reader Nat := do
  let expected := "u" ++ toString width
  match ← numberFor expected with
  | .integer n =>
    if 0 ≤ n ∧ n < 2 ^ width then return n.toNat
    else misfit (.outOfRange n expected)
  | .floating pattern => misfit (.wrongType (.floating pattern) expected)

/-- Reads a number of thirty-two bits, which may be written as an integer. -/
def single : Reader Binary.Single := Number.single <$> numberFor "f32"

/-! ### Passing over values -/

/-- A bracket that is open. -/
inductive Bracket
  | list
  | object
  deriving DecidableEq, Repr

/-- What was being read when the text ends inside a bracket. -/
def Bracket.unfinished : Bracket → Unfinished
  | list => .list
  | object => .object

/-- The fault of a bracket that is neither continued nor closed. -/
def Bracket.notContinued : Bracket → Fault
  | list => .expectedListEnd
  | object => .expectedObjectEnd

/-- The character that closes a bracket. -/
def Bracket.closing : Bracket → Char
  | list => ']'
  | object => '\x7d'

/-- Passes over a value without parts, or the opening of a bracket: which one it opens. -/
def skipScalar : Reader (Option Bracket) := do
  match ← peek with
  | none => unfinished .value
  | some c =>
    if c = '[' then do
      advance
      return some .list
    else if c = '\x7b' then do
      advance
      return some .object
    else
      if c = 'n' then word "null".toList
      else if c = 't' then word "true".toList
      else if c = 'f' then word "false".toList
      else if c = '"' then let _ ← string false
      else if startsNumber c then let _ ← numeral (.malformed .invalidNumber)
      else fault .expectedValue
      return none

/-- Takes the colon between a key and its value. -/
def colon : Reader Unit := do
  match ← peek with
  | none => unfinished .object
  | some c => if c ≠ ':' then fault .expectedColon
  advance

/-- Passes over a key and its colon. -/
def skipKey : Reader Unit := do
  match ← peek with
  | none => unfinished .object
  | some c => if c ≠ '"' then fault .keyNotString
  let _ ← string false
  colon

/-- The brackets that are open while a value is passed over, innermost first. -/
structure Nesting where
  opened : List Bracket
  /-- Whether the innermost bracket was opened just now. -/
  isFresh : Bool

/-- Passes over the next item inside brackets, or over its opening bracket alone. -/
def skipItem (opened : List Bracket) : Reader Nesting := do
  if opened.head? = some .object then
    skipKey
  match ← skipScalar with
  | some bracket => return ⟨bracket :: opened, true⟩
  | none => return ⟨opened, false⟩

/-- Goes on with the next item or leaves the innermost bracket; ends when none is open. -/
def skipTurn (nesting : Nesting) : Reader (Nesting ⊕ Unit) := do
  match nesting.opened with
  | [] => return .inr ()
  | bracket :: outer =>
    match ← peek with
    | none => unfinished bracket.unfinished
    | some c =>
      if c = bracket.closing then do
        advance
        return .inl ⟨outer, false⟩
      else if nesting.isFresh then .inl <$> skipItem nesting.opened
      else if c = ',' then do
        advance
        .inl <$> skipItem nesting.opened
      else fault bracket.notContinued

/-- Passes over a value. -/
def skipValue : Reader Unit := do
  loop skipTurn (← skipItem [])

end Reader

end LoraConcentrator.Json
