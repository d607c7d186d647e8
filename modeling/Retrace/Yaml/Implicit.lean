import Retrace.Number.Numeral
import Retrace.Yaml.Timestamp
import Retrace.Yaml.Version

/-!
# Types of plain scalars

A plain scalar has the type that its text looks like: nothing, a truth value, a
number, a time, one of the marks with a meaning of their own, and otherwise a
text. The forms exclude each other; what they are depends on the version. A line
feed at the end of the text does not count.
-/

namespace Retrace.Yaml

inductive ScalarType where
  | null
  | boolean
  | integer
  | decimal
  | timestamp
  | merge
  | default
  | indicator
  | text
  deriving DecidableEq, Repr

def nullWords : List String := ["", "~", "null", "Null", "NULL"]

def booleanWords : Version → List String
  | .current => ["true", "True", "TRUE", "false", "False", "FALSE"]
  | .early =>
    ["true", "True", "TRUE", "false", "False", "FALSE", "y", "Y", "yes", "Yes", "YES", "n", "N",
      "no", "No", "NO", "on", "On", "ON", "off", "Off", "OFF"]

def infinityWords : List String := [".inf", ".Inf", ".INF"]

def notANumberWords : List String := [".nan", ".NaN", ".NAN"]

def indicatorWords : List String := ["!", "&", "*"]

def isDigitOrGap (c : Char) : Bool := Numeral.isPlainDigit c || c = '_'

def isDigitIn (base : Nat) (c : Char) : Bool :=
  (if '0' ≤ c && c ≤ '9' then c.toNat - '0'.toNat
    else if 'a' ≤ c.toLower && c.toLower ≤ 'f' then c.toLower.toNat - 'a'.toNat + 10
    else 16) < base

/-- Digits of a base and underscores, at least one of them. -/
def isRunIn (base : Nat) (s : List Char) : Bool :=
  s != [] && s.all fun c => isDigitIn base c || c = '_'

/-- The base that a prefix names, and the digits behind it. -/
def basePrefix? : List Char → Option (Nat × List Char)
  | '0' :: 'b' :: digits => some (2, digits)
  | '0' :: 'o' :: digits => some (8, digits)
  | '0' :: 'x' :: digits => some (16, digits)
  | _ => none

/-- The parts between colons. -/
def colonParts : List Char → List (List Char)
  | [] => [[]]
  | c :: rest =>
    if c = ':' then [] :: colonParts rest
    else
      match colonParts rest with
      | [] => [[c]]
      | part :: parts => (c :: part) :: parts

/-- One or two digits that count minutes or seconds. -/
def isSixtieth : List Char → Bool
  | [b] => Numeral.isPlainDigit b
  | [a, b] => '0' ≤ a && a ≤ '5' && Numeral.isPlainDigit b
  | _ => false

/-- Digits and then sixtieths, between colons. -/
def isSexagesimal (s : List Char) : Bool :=
  match colonParts s with
  | first :: rest =>
    isRunIn 10 first && first.head? != some '_' && rest != [] && rest.all isSixtieth
  | [] => false

/-- A whole number without its sign, and without the prefix of a base. In the early
version a zero that comes first stands before octal digits. -/
def isUnsignedInteger (v : Version) (s : List Char) : Bool :=
  match v with
  | .current => isRunIn 10 s
  | .early => isRunIn 8 s || (s.head? != some '0' && (isRunIn 10 s && s.head? != some '_'
      || isSexagesimal s))

/-- An underscore may come first only behind a sign. -/
def isInteger (v : Version) (s : List Char) : Bool :=
  let body := (Numeral.takeSign s).2
  match basePrefix? body with
  | some (base, digits) => isRunIn base digits && (base != 8 || v = .current)
  | none => isUnsignedInteger v body && s.head? != some '_'

/-- The letter of an exponent, a sign and digits, up to the end. -/
def isExponent (needsSign : Bool) : List Char → Bool
  | c :: rest =>
    let digits := (Numeral.takeSign rest).2
    (c = 'e' || c = 'E') && (!needsSign || digits.length < rest.length)
      && digits != [] && digits.all Numeral.isPlainDigit
  | [] => false

/-- Digits before a fraction, an exponent, or both. -/
def isLeadingDecimal : List Char → Bool
  | c :: rest =>
    Numeral.isPlainDigit c &&
      match rest.dropWhile isDigitOrGap with
      | '.' :: fraction =>
        let rest := fraction.dropWhile isDigitOrGap
        rest = [] || isExponent false rest
      | rest => isExponent false rest
  | [] => false

/-- A fraction before which nothing is written needs a sign in its exponent. -/
def isBareFraction : List Char → Bool
  | '.' :: fraction =>
    let rest := fraction.dropWhile isDigitOrGap
    rest.length < fraction.length && (rest = [] || isExponent true rest)
  | _ => false

/-- Sixtieths with a fraction. -/
def isSexagesimalDecimal (s : List Char) : Bool :=
  isSexagesimal (s.takeWhile (· != '.')) &&
    match s.dropWhile (· != '.') with
    | _ :: fraction => fraction.all isDigitOrGap
    | [] => false

/-- In the early version a bare fraction has no sign. -/
def isDecimal (v : Version) (s : List Char) : Bool :=
  let body := (Numeral.takeSign s).2
  isLeadingDecimal body || infinityWords.contains (String.ofList body)
    || notANumberWords.contains (String.ofList s)
    || match v with
      | .current => isBareFraction body
      | .early => isBareFraction s || isSexagesimalDecimal body

/-- A text without the line feed at its end. -/
def withoutLastBreak (s : List Char) : List Char :=
  if s.getLast? = some '\n' then s.dropLast else s

/-- The type of a plain scalar. -/
def ScalarType.ofText (v : Version) (s : List Char) : ScalarType :=
  let body := withoutLastBreak s
  let word := String.ofList body
  if s = ['\n'] then .text
  else if (booleanWords v).contains word then .boolean
  else if isDecimal v body then .decimal
  else if isInteger v body then .integer
  else if word = "<<" then .merge
  else if nullWords.contains word then .null
  else if isTimestamp body then .timestamp
  else if word = "=" then .default
  else if indicatorWords.contains word then .indicator
  else .text

end Retrace.Yaml
