import Retrace.Number.Numeral
import Retrace.Text.Lines

/-!
# What is wrong with a JSON text

Most causes have a place. Its line, its column and its index, the index counted
from zero, end the message. A whole number that is too long has none.
-/

namespace Retrace.Json

inductive Cause where
  | value
  | propertyName
  | colon
  | comma
  | extraData
  | controlCharacter
  | escape
  | codePoint
  | unterminated
  | byteOrderMark
  deriving DecidableEq, Repr

def Cause.message : Cause → String
  | value => "Expecting value"
  | propertyName => "Expecting property name enclosed in double quotes"
  | colon => "Expecting ':' delimiter"
  | comma => "Expecting ',' delimiter"
  | extraData => "Extra data"
  | controlCharacter => "Invalid control character at"
  | escape => "Invalid \\escape"
  | codePoint => "Invalid \\uXXXX escape"
  | unterminated => "Unterminated string starting at"
  | byteOrderMark => "Unexpected UTF-8 BOM (decode using utf-8-sig)"

inductive Fault where
  | found (cause : Cause) (line column index : Nat)
  | tooManyDigits (count : Nat)
  deriving DecidableEq, Repr

/-- A number of digits above the limit for whole numbers. -/
def digitsMessage (count : Nat) : String :=
  s!"Exceeds the limit ({Numeral.digitLimit} digits) for integer string conversion: value has "
    ++ s!"{count} digits; use sys.set_int_max_str_digits() to increase the limit"

def Fault.message : Fault → String
  | .found cause line column index =>
    s!"{cause.message}: line {line} column {column} (char {index})"
  | .tooManyDigits count => digitsMessage count

end Retrace.Json
