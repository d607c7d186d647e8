import Retrace.Number.Numeral
import Retrace.Recording.Checked
import Retrace.Text.Lower
import Retrace.Text.Utf8

/-!
# Checking scalars

Texts are only texts, or bytes that spell one. Numbers and truth values may be
given in each other's form where nothing is lost, and by their spelling.
-/

namespace Retrace.Recording

open Checked

/-- The spelling of a text, or of bytes; `problem` is that of bytes which have none. -/
def spelling? (problem : Problem) : Datum → Option (Except Problem (List Char))
  | .text s => some (.ok s.toList)
  | .brokenText _ => some (.error .notUtf8)
  | .bytes bs => some ((Text.Utf8.decode bs).mapError fun _ => problem)
  | _ => none

def checkText : Datum → Checked String
  | .text s => accepted s
  | .brokenText _ => reject .notUtf8
  | .bytes bs =>
    match Text.Utf8.decode bs with
    | .ok s => accepted (String.ofList s)
    | .error _ => reject .notUtf8
  | _ => reject .notText

def checkItems {α : Type} (check : Datum → Checked α) : Nat → List Datum → Checked (List α)
  | _, [] => accepted []
  | index, d :: rest =>
    List.cons <$> (check d).within (toString index) <*> checkItems check (index + 1) rest

def checkList {α : Type} (check : Datum → Checked α) (d : Datum) : Checked (List α) :=
  match d.items? with
  | some items => checkItems check 0 items
  | none => reject .notList

def checkOption {α : Type} (check : Datum → Checked α) : Datum → Checked (Option α)
  | .none => accepted none
  | d => some <$> check d

/-- One of the given texts, by name. -/
def checkChoice {α : Type} (choices : List (String × α)) (d : Datum) : Checked α :=
  match (d.text?.bind fun s => choices.find? fun c => c.1 == s) with
  | some c => accepted c.2
  | none => reject (if d.isBroken then .notUtf8 else .notLiteral (choices.map (·.1)))

/-! ## Whole numbers -/

/-- Goes on after a leading zero; `inGap` says whether an underscore came last. A
zero stays if nothing follows but a fraction, and a minus may follow zeros. -/
def afterZeros (inGap : Bool) : List Char → Option (List Char)
  | [] => if inGap then none else some ['0']
  | c :: rest =>
    if c = '0' then afterZeros false rest
    else if c = '_' then afterZeros true rest
    else if c = '.' then if inGap then none else some ('0' :: c :: rest)
    else if Numeral.isPlainDigit c || c = '-' then some (c :: rest)
    else none

/-- Drops leading zeros, and underscores among them. -/
def dropLeadingZeros : List Char → Option (List Char)
  | [] => none
  | c :: rest =>
    if c = '0' then afterZeros false rest
    else if Numeral.isPlainDigit c then some (c :: rest)
    else none

/-- Drops a fraction of zeros. -/
def dropZeroFraction (s : List Char) : Option (List Char) :=
  match s.dropWhile (· != '.') with
  | [] => some s
  | _ :: fraction =>
    if fraction != [] && fraction.all (· = '0') then some (s.takeWhile (· != '.')) else none

def dropUnderscores (s : List Char) : List Char :=
  if Numeral.wellGrouped s then s.filter (· != '_') else s

/-- Digits without a leading zero; a minus counts towards their number. -/
def readDigits (negative : Bool) (digits : List Char) : Checked Int :=
  if digits = [] || !digits.all Numeral.isPlainDigit
      || (digits.head? = some '0' && digits != ['0'])
      || Numeral.digitLimit < digits.length + negative.toNat then reject .notIntegerText
  else accepted (Numeral.signed negative (Numeral.valueOf 10 digits))

/-- What is left of a numeral's body. -/
def plainNumeral (body : List Char) : Option (List Char) :=
  ((dropLeadingZeros body).bind dropZeroFraction).map dropUnderscores

def readBody (negative : Bool) (body : List Char) : Checked Int :=
  match plainNumeral body, negative with
  | some ('-' :: digits), false => readDigits true digits
  | some digits, negative => readDigits negative digits
  | none, _ => reject .notIntegerText

/-- Whether a text begins with a whole number that is too long. -/
def isOverlong (s : List Char) : Bool :=
  let body := if s.head? = some '-' then s.drop 1 else s
  let digits := body.takeWhile Numeral.isPlainDigit
  digits.head? != some '0' && Numeral.digitLimit < digits.length + (s.length - body.length)

def readWholeText (s : List Char) : Checked Int :=
  if isOverlong s then reject .integerTooLong
  else
    match Numeral.trim s with
    | '-' :: body => readBody true body
    | '+' :: body => readBody false body
    | body => readBody false body

/-- A double that is whole and strictly inside the range of 64 bits. -/
def wholeOfDouble (x : Double) : Checked Int :=
  if !x.isFinite then reject .notFinite
  else
    match x.toInt? with
    | none => reject .fractional
    | some n => if n.natAbs < 0x8000000000000000 then accepted n else reject .integerTooLong

def checkInteger (d : Datum) : Checked Int :=
  match spelling? .notIntegerText d with
  | some (.ok s) => readWholeText s
  | some (.error problem) => reject problem
  | none =>
    match d with
    | .bool b => accepted b.toNat
    | .int n => accepted n
    | .double x => wholeOfDouble x
    | _ => reject .notInteger

def checkAtLeast (bound : Nat) (d : Datum) : Checked Nat :=
  (checkInteger d).andThen fun n =>
    if (bound : Int) ≤ n then accepted n.toNat else reject (.below bound)

/-! ## Numbers -/

def withoutUnderscores? (s : List Char) : Option (List Char) :=
  if s.contains '_' && Numeral.wellGrouped s then some (s.filter (· != '_')) else none

def readNumberText (s : List Char) : Checked Double :=
  match Numeral.readDecimal (Numeral.trim s) with
  | some x => accepted x
  | none =>
    match (withoutUnderscores? s).bind Numeral.readDecimal with
    | some x => accepted x
    | none => reject .notNumberText

def checkNumber (d : Datum) : Checked Double :=
  match spelling? .notNumberText d with
  | some (.ok s) => readNumberText s
  | some (.error problem) => reject problem
  | none =>
    match d with
    | .double x => accepted x
    | .bool b => accepted (.ofInt b.toNat)
    | .int n =>
      let x := Double.ofInt n
      if x.isFinite then accepted x else reject .notNumber
    | _ => reject .notNumber

/-! ## Truth values -/

def trueWords : List String := ["1", "t", "y", "on", "yes", "true"]

def falseWords : List String := ["0", "f", "n", "off", "no", "false"]

def readBooleanText (s : List Char) : Checked Bool :=
  let word := String.ofList (Numeral.lowerPlain s)
  if trueWords.contains word then accepted true
  else if falseWords.contains word then accepted false
  else reject .notBooleanText

def booleanOfInt (n : Int) : Checked Bool :=
  if n = 0 then accepted false else if n = 1 then accepted true else reject .notBooleanText

def isWord64 (n : Int) : Bool := -0x8000000000000000 ≤ n && n < 0x8000000000000000

def checkBoolean (d : Datum) : Checked Bool :=
  match spelling? .notBooleanText d with
  | some (.ok s) => readBooleanText s
  | some (.error problem) => reject problem
  | none =>
    match d with
    | .bool b => accepted b
    | .int n => if isWord64 n then booleanOfInt n else reject .notBoolean
    | .double x =>
      match wholeOfDouble x with
      | accepted n => booleanOfInt n
      | _ => reject .notBoolean
    | _ => reject .notBoolean

end Retrace.Recording
