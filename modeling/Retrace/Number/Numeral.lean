import Retrace.Number.Double
import Retrace.Text.Blank
import Retrace.Text.Digit

/-!
# Reading numerals

A whole number may use the digits of any script, a sign, single underscores
between digits and blanks around it; more than 4300 digits are refused. A
decimal uses plain digits, a point and an exponent, or is one of the words for
infinity and for what is no number.
-/

namespace Retrace.Numeral

open Text

inductive Fault where
  | malformed
  | tooManyDigits (count : Nat)
  deriving DecidableEq, Repr

/-- The most digits a whole number may have when it is read or written. -/
def digitLimit : Nat := 4300

/-- Blanks around a numeral; the separators among the control characters do not count. -/
def isBlankAround (c : Char) : Bool :=
  isBlank c && !(0x1c ≤ c.toNat && c.toNat ≤ 0x1f)

def trim (s : List Char) : List Char :=
  ((s.dropWhile isBlankAround).reverse.dropWhile isBlankAround).reverse

/-- Splits off a sign; the flag says whether it was a minus. -/
def takeSign : List Char → Bool × List Char
  | '-' :: rest => (true, rest)
  | '+' :: rest => (false, rest)
  | s => (false, s)

def signed (negative : Bool) (n : Nat) : Int := if negative then -(n : Int) else n

/-- The value of a run of digits, underscores left out. -/
def valueOf (base : Nat) (digits : List Char) : Nat :=
  digits.foldl (fun n c =>
    match decimalValue? c with
    | some d => n * base + d
    | none => n) 0

/-- Underscores stand one at a time and only between digits. -/
def wellGrouped (s : List Char) : Bool :=
  s.head? != some '_' && s.getLast? != some '_'
    && (s.zip s.tail).all fun p => !(p.1 == '_' && p.2 == '_')

def readInteger (s : List Char) : Except Fault Int :=
  let (negative, body) := takeSign (trim s)
  let isPart := fun c => (decimalValue? c).isSome || c == '_'
  let run := body.takeWhile isPart
  let count := (run.filter (· != '_')).length
  if !wellGrouped run then .error .malformed
  else if digitLimit < count then .error (.tooManyDigits count)
  else if body.dropWhile isPart != [] || count = 0 then .error .malformed
  else .ok (signed negative (valueOf 10 run))

/-- Whole numbers too long to be written are refused. -/
def writeInteger? (n : Int) : Option String :=
  if Double.tenTo digitLimit ≤ n.natAbs then none else some (toString n)

def isPlainDigit (c : Char) : Bool := '0' ≤ c && c ≤ '9'

/-- Digits of other scripts become plain ones. -/
def withPlainDigits (s : List Char) : List Char :=
  s.map fun c =>
    match decimalValue? c with
    | some d => Char.ofNat ('0'.toNat + d)
    | none => c

/-- A run of plain digits and what follows it. -/
def takeDigits (s : List Char) : List Char × List Char :=
  (s.takeWhile isPlainDigit, s.dropWhile isPlainDigit)

def lowerPlain (s : List Char) : List Char := s.map Char.toLower

/-- An exponent, if there is one: the power and what follows it. -/
def takeExponent (s : List Char) : Option (Int × List Char) :=
  match s with
  | c :: rest =>
    if c = 'e' || c = 'E' then
      let (negative, rest) := takeSign rest
      let (digits, rest) := takeDigits rest
      if digits = [] then none else some (signed negative (valueOf 10 digits), rest)
    else none
  | [] => none

def readUnsigned (negative : Bool) (s : List Char) : Option Double :=
  let (whole, rest) := takeDigits s
  let (fraction, rest) :=
    match rest with
    | '.' :: rest => takeDigits rest
    | _ => ([], rest)
  if whole = [] && fraction = [] then none
  else
    let mantissa := valueOf 10 (whole ++ fraction)
    if rest = [] then some (.ofDecimal negative mantissa (-fraction.length))
    else
      match takeExponent rest with
      | some (power, []) => some (.ofDecimal negative mantissa (power - fraction.length))
      | _ => none

/-- A decimal without blanks around it. -/
def readDecimal (s : List Char) : Option Double :=
  let (negative, body) := takeSign s
  let word := String.ofList (lowerPlain body)
  if word = "inf" || word = "infinity" then some (.infinity negative)
  else if word = "nan" then some .nan
  else readUnsigned negative body

end Retrace.Numeral
