import LoraConcentrator.Decimal.Layout
import LoraConcentrator.Text.Quoted

/-!
# Problems of a settings text

Reading a JSON text as settings stops at the first problem met. The text may end too early, break
the grammar, or hold a value that the settings have no place for; each cause is a constructor and
`Problem.text` has the wording of all of them.
-/

namespace LoraConcentrator.Json

open Binary Decimal

/-- What was being read when the text ended. -/
inductive Unfinished
  | list
  | object
  | string
  | value
  deriving DecidableEq, Repr

/-- How a text breaks the grammar. -/
inductive Fault
  | expectedColon
  | expectedListEnd
  | expectedObjectEnd
  | expectedWord
  | expectedValue
  | invalidEscape
  | invalidNumber
  | numberOutOfRange
  | controlCharacter
  | keyNotString
  | loneSurrogate
  | trailingComma
  | trailingCharacters
  | unfinishedSurrogate
  deriving DecidableEq, Repr

/-- A value met where another was expected. -/
inductive Found
  | null
  | boolean (b : Bool)
  | integer (n : Int)
  /-- The pattern of a number of sixty-four bits. -/
  | floating (pattern : Nat)
  | string (s : String)
  | sequence
  | map
  deriving DecidableEq, Repr

/-- Why a value has no place in the settings. -/
inductive Misfit
  | wrongType (found : Found) (expected : String)
  | outOfRange (n : Int) (expected : String)
  | missingField (name : String)
  | duplicateField (name : String)
  | wrongLength (length : Nat) (record : String) (fieldCount : Nat)
  | bandwidth (kilohertz : UInt16)
  | spreadingFactor (value : UInt8)
  deriving DecidableEq, Repr

/-- Why a text is no settings text. -/
inductive Problem
  | unfinished (what : Unfinished)
  | malformed (fault : Fault)
  | misfit (reason : Misfit)
  deriving DecidableEq, Repr

namespace Unfinished

/-- What was being read, in words. -/
def text : Unfinished → String
  | list => "EOF while parsing a list"
  | object => "EOF while parsing an object"
  | string => "EOF while parsing a string"
  | value => "EOF while parsing a value"

end Unfinished

namespace Fault

/-- The fault in words. -/
def text : Fault → String
  | expectedColon => "expected `:`"
  | expectedListEnd => "expected `,` or `]`"
  | expectedObjectEnd => "expected `,` or `\x7d`"
  | expectedWord => "expected ident"
  | expectedValue => "expected value"
  | invalidEscape => "invalid escape"
  | invalidNumber => "invalid number"
  | numberOutOfRange => "number out of range"
  | controlCharacter => "control character (\\u0000-\\u001F) found while parsing a string"
  | keyNotString => "key must be a string"
  | loneSurrogate => "lone leading surrogate in hex escape"
  | trailingComma => "trailing comma"
  | trailingCharacters => "trailing characters"
  | unfinishedSurrogate => "unexpected end of hex escape"

end Fault

/-- Numbers in messages keep a point or an exponent, and are written without exponent while their
first digit stands between `10 ^ -5` and `10 ^ 15`. -/
def messageNumber : Layout := ⟨.even, some (-5, 15), ".0", "inf", "NaN"⟩

namespace Found

/-- A value in words. -/
def text : Found → String
  | null => "null"
  | boolean true => "boolean `true`"
  | boolean false => "boolean `false`"
  | integer n => "integer `" ++ toString n ++ "`"
  | floating pattern => "floating point `" ++ messageNumber.text double pattern ++ "`"
  | string s => "string " ++ Text.quoted s
  | sequence => "sequence"
  | map => "map"

end Found

namespace Misfit

/-- The misfit in words. -/
def text : Misfit → String
  | wrongType found expected => "invalid type: " ++ found.text ++ ", expected " ++ expected
  | outOfRange n expected =>
    "invalid value: " ++ (Found.integer n).text ++ ", expected " ++ expected
  | missingField name => "missing field `" ++ name ++ "`"
  | duplicateField name => "duplicate field `" ++ name ++ "`"
  | wrongLength length record fieldCount =>
    "invalid length " ++ toString length ++ ", expected struct " ++ record ++ " with " ++
      toString fieldCount ++ (if fieldCount = 1 then " element" else " elements")
  | bandwidth kilohertz => "Invalid bandwidth " ++ toString kilohertz.toNat
  | spreadingFactor value => "Invalid spreading factor " ++ toString value.toNat

end Misfit

namespace Problem

/-- The problem in words. -/
def text : Problem → String
  | unfinished what => what.text
  | malformed fault => fault.text
  | misfit reason => reason.text

end Problem

end LoraConcentrator.Json
