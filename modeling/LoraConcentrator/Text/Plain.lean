/-!
# Plain text

What is left of a text when nothing in it may steer a terminal. Control characters other than blanks
and line ends are left out, and so are control sequences: an escape character begins one, the
characters after it say of what form it is, and the form says where it ends. Blanks and line ends
stay inside the forms that are short; a string for the terminal or for a device is left out whole,
if need be to the end of the text. A text of plain characters stays as it is
(`plainFrom_of_isPlain`).
-/

namespace LoraConcentrator.Text

/-- Where a place of a text stands among its control sequences. -/
inductive Place
  /-- Outside of all of them. -/
  | outside
  /-- After an escape character. -/
  | escape
  /-- After an escape character and others that do not end the sequence. -/
  | escaped
  /-- Among the parameters of a sequence. -/
  | parameters
  /-- At the start of a string for a device. -/
  | deviceStart
  /-- Among the parameters of a string for a device. -/
  | deviceParameters
  /-- After the parameters of a string for a device. -/
  | deviceTail
  /-- In a string that a string terminator ends. -/
  | string
  /-- In a string that a bell ends. -/
  | command
  deriving DecidableEq, Repr

/-- Whether a character lies in a range of code points. -/
def inRange (first last : Nat) (c : Char) : Bool := first ≤ c.toNat && c.toNat ≤ last

/-- Whether a character is a control character that moves on in a line or ends it. -/
def isMove (c : Char) : Bool := c = '\t' || c = '\n' || c = '\x0C' || c = '\r'

/-- Whether a character is shown outside of sequences. -/
def isPlain (c : Char) : Bool := inRange 0x20 0x7E c || isMove c || 0x80 ≤ c.toNat

/-- Whether the written form of a character holds a string terminator, the byte 9C. -/
def holdsTerminator (c : Char) : Bool := (String.utf8EncodeChar c).contains 0x9C

namespace Place

/-- Whether a character is shown at a place. -/
def shows : Place → Char → Bool
  | outside, c => isPlain c
  | escape, c | escaped, c | parameters, c => isMove c
  | deviceStart, _ | deviceParameters, _ | deviceTail, _ | string, _ | command, _ => false

/-- The place after a character that is no escape and does not cancel the sequence. -/
def next : Place → Char → Place
  | outside, _ => outside
  | escape, c =>
    if c = '[' then parameters
    else if c = ']' then command
    else if c = 'P' then deviceStart
    else if c = 'X' ∨ c = '^' ∨ c = '_' then string
    else if inRange 0x20 0x2F c then escaped
    else if inRange 0x30 0x7E c then outside
    else escape
  | escaped, c => if inRange 0x30 0x7E c then outside else escaped
  | parameters, c => if inRange 0x40 0x7E c then outside else parameters
  | deviceStart, c =>
    if inRange 0x20 0x2F c then deviceTail
    else if inRange 0x30 0x3F c then deviceParameters
    else if inRange 0x40 0x7E c then string
    else deviceStart
  | deviceParameters, c =>
    if inRange 0x20 0x2F c then deviceTail
    else if inRange 0x3C 0x7E c then string
    else deviceParameters
  | deviceTail, c => if inRange 0x30 0x7E c then string else deviceTail
  | string, c => if holdsTerminator c then outside else string
  | command, c => if c = '\x07' then outside else command

/-- The place after a character that is not shown. -/
def after (place : Place) (c : Char) : Place :=
  if c = '\x1B' then escape
  else if c = '\x18' ∨ c = '\x1A' then outside
  else place.next c

end Place

/-- The characters shown of those from a place on. After one that is shown all plain ones are, up to
the next one that is not. -/
def plainFrom : (shown : Bool) → Place → List Char → List Char
  | _, _, [] => []
  | shown, place, c :: cs =>
    if (shown && isPlain c) || place.shows c then
      c :: plainFrom true (if c.toNat < 0x80 then place else .outside) cs
    else plainFrom false (place.after c) cs

/-- A text without control sequences. -/
def plain (s : String) : String := String.ofList (plainFrom false .outside s.toList)

/-- A text whose further lines are indented. -/
def indented (width : Nat) (s : String) : String :=
  String.ofList <| s.toList.flatMap fun c ↦
    if c = '\n' then '\n' :: List.replicate width ' ' else [c]

/-- Plain characters outside of sequences stay as they are. -/
theorem plainFrom_of_isPlain (shown : Bool) {cs : List Char} (h : ∀ c ∈ cs, isPlain c = true) :
    plainFrom shown .outside cs = cs := by
  induction cs generalizing shown with
  | nil => rfl
  | cons c cs ih =>
    have hc : isPlain c = true := h c List.mem_cons_self
    simp [plainFrom, Place.shows, hc, ih true fun d hd ↦ h d (List.mem_cons_of_mem c hd)]

end LoraConcentrator.Text
