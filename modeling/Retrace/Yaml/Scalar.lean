import Retrace.Text.Lower
import Retrace.Yaml.Fault
import Retrace.Yaml.Implicit

/-!
# Values of scalars

A scalar that has a type is read by the rules of that type, which are wider than
the form by which a plain scalar gets it: a tag may ask for any text to be read.
In the early version numbers may be written in base sixty, with colons.
-/

namespace Retrace.Yaml

open Numeral

/-- The words for truth values, whatever their case. -/
def truthWords : List (String × Bool) :=
  [("yes", true), ("no", false), ("y", true), ("n", false), ("true", true), ("false", false),
    ("on", true), ("off", false)]

def readBoolean (s : List Char) : Except ScalarFault Datum :=
  let word := Text.lower s
  match truthWords.lookup (String.ofList word) with
  | some b => .ok (.bool b)
  | none => .error (.boolean word)

def withoutGaps (s : List Char) : List Char := s.filter (· != '_')

/-! ## Whole numbers -/

/-- The value of a digit of any script or of a letter that serves as one. -/
def digitValue? (c : Char) : Option Nat :=
  match Text.decimalValue? c with
  | some d => some d
  | none =>
    if 'a' ≤ c.toLower && c.toLower ≤ 'f' then some (c.toLower.toNat - 'a'.toNat + 10) else none

def digitIn? (base : Nat) (c : Char) : Option Nat := (digitValue? c).filter (· < base)

/-- The letters that may name a base once more before its digits. -/
def baseLetters : Nat → List Char
  | 2 => ['b', 'B']
  | 8 => ['o', 'O']
  | 16 => ['x', 'X']
  | _ => []

def withoutPrefix (base : Nat) : List Char → List Char
  | '0' :: c :: rest => if (baseLetters base).contains c then rest else '0' :: c :: rest
  | s => s

/-- A whole number in a base other than ten. -/
def readInBase (base : Nat) (s : List Char) : Except ScalarFault Int :=
  let (negative, body) := takeSign (trim s)
  match (withoutPrefix base body).mapM (digitIn? base) with
  | some (d :: ds) => .ok (signed negative ((d :: ds).foldl (fun n d => n * base + d) 0))
  | _ => .error (.integer base s .malformed)

def readInTen (s : List Char) : Except ScalarFault Int :=
  (readInteger s).mapError fun fault => .integer 10 s fault

def readInSixty (s : List Char) : Except ScalarFault Int := do
  return (← (colonParts s).mapM readInTen).foldl (fun n d => n * 60 + d) 0

/-- A whole number after its sign. -/
def readUnsignedNumber (v : Version) (body : List Char) : Except ScalarFault Int :=
  match basePrefix? body with
  | some (base, digits) => readInBase base digits
  | none =>
    if v = .current then readInTen body
    else if body = [] then .error .noText
    else if body.head? = some '0' then readInBase 8 body
    else if body.contains ':' then readInSixty body
    else readInTen body

def readWholeNumber (v : Version) (s : List Char) : Except ScalarFault Datum := do
  match withoutGaps s with
  | [] => throw .noText
  | digits =>
    let (negative, body) := takeSign digits
    let n ← readUnsignedNumber v body
    return .int (if negative then -n else n)

/-! ## Decimals -/

def readPart (s : List Char) : Except ScalarFault Double :=
  match readDecimal (trim (withPlainDigits s)) with
  | some x => .ok x
  | none => .error (.decimal s)

/-- The sum of parts, the lowest first, each of which counts sixty times the one before. -/
def sumOfSixties (unit : Nat) (sum : Double) : List Double → Except ScalarFault Double
  | [] => .ok sum
  | part :: parts =>
    let size := Double.ofInt unit
    if size.isFinite then sumOfSixties (unit * 60) (sum + part * size) parts
    else .error .overflow

def readDecimalInSixty (s : List Char) : Except ScalarFault Double := do
  sumOfSixties 1 (.zero false) (← (colonParts s).mapM readPart).reverse

/-- A decimal after its sign, in small letters. -/
def readUnsignedDecimal (v : Version) (body : List Char) : Except ScalarFault Double :=
  if body = ".inf".toList then .ok (.infinity false)
  else if body = ".nan".toList then .ok .nan
  else if v = .early && body.contains ':' then readDecimalInSixty body
  else if v = .early && 1 < body.count 'e' then .error .tooManyExponents
  else readPart body

/-- Whether a decimal is the word for what is no number, with or without a sign. -/
def isNotANumberWord (s : List Char) : Bool :=
  (takeSign (Text.lower (withoutGaps s))).2 = ".nan".toList

def readDecimalNumber (v : Version) (s : List Char) : Except ScalarFault Datum := do
  match Text.lower (withoutGaps s) with
  | [] => throw .noText
  | text =>
    let (negative, body) := takeSign text
    let x ← readUnsignedDecimal v body
    return .double (if negative then x.negated else x)

/-- The value of code points of a type; a time may fail to be one at all. -/
def readScalar (v : Version) (type : ScalarType) (points : List Nat) :
    Except ScalarFault (Option Datum) :=
  let s := points.map Text.viewed
  match type with
  | .null => .ok (some .none)
  | .boolean => some <$> readBoolean s
  | .integer => some <$> readWholeNumber v s
  | .decimal => some <$> readDecimalNumber v s
  | .timestamp =>
    match readTimestamp? (withoutLastBreak s) with
    | none => .ok none
    | some ⟨date, _, none⟩ => (some ∘ .date) <$> date.check.mapError .calendar
    | some ⟨date, _, some clock⟩ => (some ∘ .moment) <$> (clock.on date).mapError .calendar
  | .merge | .default | .indicator | .text => .ok (some (.ofPoints points))

end Retrace.Yaml
