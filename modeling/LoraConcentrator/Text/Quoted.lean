import LoraConcentrator.Bytes.Hex
import LoraConcentrator.Text.Escaped

/-!
# Quoted text and record text

Values shown for inspection put texts in quotation marks, with an escape for every character that
would end the quotation or cannot be seen, and records as a name with labelled fields in braces.
-/

namespace LoraConcentrator.Text

/-- Whether a character is shown by its code point. -/
def isInvisible (c : Char) : Bool :=
  if c.toNat < 0x20 then true
  else if c.toNat < 0x7F then false
  else isEscapedMark c

/-- The digits of a code point in small hexadecimal, without zeros in front. -/
def codePoint (c : Char) : String := String.ofList (Nat.toDigits 16 c.toNat)

/-- A character inside quotation marks. -/
def escape (c : Char) : String :=
  if c = '\x00' then "\\0"
  else if c = '\t' then "\\t"
  else if c = '\n' then "\\n"
  else if c = '\r' then "\\r"
  else if c = '"' then "\\\""
  else if c = '\\' then "\\\\"
  else if isInvisible c then "\\u\x7b" ++ codePoint c ++ "\x7d"
  else c.toString

/-- A text in quotation marks. -/
def quoted (s : String) : String :=
  "\"" ++ String.join (s.toList.map escape) ++ "\""

/-- A record with labelled fields: `Name { a: 1, b: 2 }`. -/
def fields (name : String) (labelled : List (String × String)) : String :=
  name ++ " \x7b " ++ ", ".intercalate (labelled.map fun f ↦ f.1 ++ ": " ++ f.2) ++ " \x7d"

/-- A record with one unlabelled field: `Name(1)`. -/
def wrapped (name inner : String) : String := name ++ "(" ++ inner ++ ")"

end LoraConcentrator.Text
