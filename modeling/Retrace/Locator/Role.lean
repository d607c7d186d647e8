import Retrace.Locator.Value
import Retrace.Text.Word

/-!
# Roles and their attributes

A role may be followed by attributes in brackets. The attributes are found from
left to right and do not overlap; a quoted value may hold brackets, any other
value ends at the next closing one. What does not look like an attribute is
passed over.
-/

namespace Retrace.Locator

def isNameChar (c : Char) : Bool := Text.isWord c || c = '-'

/-- A name and an equals sign after an opening bracket, and what follows them. -/
def takeName (s : List Char) : Option (List Char × List Char) :=
  let name := s.takeWhile isNameChar
  match name, s.dropWhile isNameChar with
  | _ :: _, '=' :: rest => some (name, rest)
  | _, _ => none

/-- A quoted value, flag included, that a closing bracket follows. -/
def takeQuotedValue : List Char → Option (List Char × List Char)
  | '\x22' :: rest =>
    match takeQuoted rest with
    | some (body, after) =>
      let (_, behind) := takeFlag after
      let flag := after.take (after.length - behind.length)
      match behind with
      | ']' :: rest => some ('\x22' :: body ++ '\x22' :: flag, rest)
      | _ => none
    | none => none
  | _ => none

/-- Everything up to the next closing bracket. -/
def takeBareValue (s : List Char) : Option (List Char × List Char) :=
  match s.dropWhile (· != ']') with
  | _ :: rest => some (s.takeWhile (· != ']'), rest)
  | [] => none

/-- An attribute's name and raw value, if one begins here, and what follows it. -/
def takeAttribute : List Char → Option ((List Char × List Char) × List Char)
  | '[' :: s =>
    match takeName s with
    | some (name, s) =>
      ((takeQuotedValue s).orElse fun _ => takeBareValue s).map fun p => ((name, p.1), p.2)
    | none => none
  | _ => none

/-- All attributes after `skip` characters that belong to one already found. -/
def attributesAfter : Nat → List Char → List (List Char × List Char)
  | _, [] => []
  | skip + 1, _ :: rest => attributesAfter skip rest
  | 0, c :: rest =>
    match takeAttribute (c :: rest) with
    | some (found, after) => found :: attributesAfter (rest.length - after.length) rest
    | none => attributesAfter 0 rest

def attributes (s : List Char) : List (List Char × List Char) := attributesAfter 0 s

inductive Value where
  | matching (matcher : Matcher)
  | flag (value : Bool)
  | number (value : Int)
  deriving DecidableEq, Repr

structure Attribute where
  name : List Char
  value : Value
  deriving DecidableEq, Repr

/-- A value that no selector may hold: text that is not JSON, or a numeral that
only looks like a whole number. -/
inductive ValueFault where
  | json (fault : Json.Fault)
  | number (fault : Numeral.Fault) (raw : List Char)
  deriving DecidableEq, Repr

/-- A numeral is shown no further than this. -/
def shownSize : Nat := 200

def ValueFault.message : ValueFault → String
  | .json fault => fault.message
  | .number .malformed raw =>
    "invalid literal for int() with base 10: "
      ++ String.ofList ((Datum.showText raw).take shownSize)
  | .number (.tooManyDigits count) _ => Json.digitsMessage count

/-- Digits of any kind, after minus signs. -/
def looksNumeric (raw : List Char) : Bool :=
  let digits := raw.dropWhile (· = '-')
  digits != [] && digits.all Text.isDigit

def readValue [Text.View] (raw : List Char) : Except ValueFault Value :=
  if raw.head? = some '\x22' then do
    let (value, exact) ← (readPlain raw).mapError .json
    return .matching (.text value exact)
  else
    match pattern? raw with
    | some m => .ok (.matching m)
    | none =>
      if raw = "true".toList then .ok (.flag true)
      else if raw = "false".toList then .ok (.flag false)
      else if looksNumeric raw then
        match Numeral.readInteger raw with
        | .ok n => .ok (.number n)
        | .error fault => .error (.number fault raw)
      else .ok (.matching (.text raw false))

def readAttribute [Text.View] (found : List Char × List Char) : Except ValueFault Attribute := do
  return ⟨found.1, ← readValue found.2⟩

def Value.write : Value → List Char
  | .matching m => m.write
  | .flag b => (if b then "True" else "False").toList
  | .number n => (toString n).toList

def exactArgument : List Char := "exact=True".toList

/-- An attribute's keyword argument, and the demand for the exact text. -/
def Attribute.write (a : Attribute) : List (List Char) :=
  let name := a.name.map fun c => if c = '-' then '_' else c
  let exact :=
    match a.value with
    | .matching m => m.isExact
    | _ => false
  (name ++ '=' :: a.value.write) :: if exact then [exactArgument] else []

end Retrace.Locator
