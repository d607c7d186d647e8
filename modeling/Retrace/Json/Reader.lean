import Retrace.Datum.Basic
import Retrace.Json.Fault

/-!
# Reading JSON

The reader knows how many characters are left, from which a fault's place is
computed at the end. Objects keep the order of their properties; a property
that comes again replaces the value and keeps the place. The words for
infinity and for what is no number are accepted. An escaped pair of surrogates is
one character, and half a pair stays what it is.
-/

namespace Retrace.Json

open Text

/-- A fault and the number of characters from its place to the end. -/
structure Stop where
  cause : Cause
  left : Nat

/-- Why reading ends early: at a place, or in a whole number that is too long. -/
inductive Halt where
  | stop (place : Stop)
  | tooManyDigits (count : Nat)

def stopAt {α : Type} (cause : Cause) (left : Nat) : Except Halt α :=
  .error (.stop ⟨cause, left⟩)

def isSpace (c : Char) : Bool := c = ' ' || c = '\t' || c = '\n' || c = '\r'

def skipSpace (s : List Char) : List Char := s.dropWhile isSpace

def hexValue? (c : Char) : Option Nat :=
  if '0' ≤ c && c ≤ '9' then some (c.toNat - '0'.toNat)
  else if 'a' ≤ c && c ≤ 'f' then some (c.toNat - 'a'.toNat + 10)
  else if 'A' ≤ c && c ≤ 'F' then some (c.toNat - 'A'.toNat + 10)
  else none

/-- The value of exactly the first four characters. -/
def hexQuad? (s : List Char) : Option Nat :=
  if (s.take 4).length < 4 then none
  else (s.take 4).foldlM (fun n c => (hexValue? c).map (n * 16 + ·)) 0

def simpleEscape? (c : Char) : Option Char :=
  if c = '\x22' || c = '\\' || c = '/' then some c
  else if c = 'n' then some '\n'
  else if c = 'r' then some '\r'
  else if c = 't' then some '\t'
  else if c = 'b' then some '\x08'
  else if c = 'f' then some '\x0c'
  else none

/-- Whether a text has more than `n` characters. -/
def isLonger (n : Nat) (s : List Char) : Bool := !(s.drop n).isEmpty

/-- The code points up to the closing mark, `opening` being the rest from the opening
mark on. A code point is read only if something follows it, and the second half
of a pair only if something follows that. -/
def readText (opening : List Char) : Nat → List Char → Except Halt (List Nat × List Char)
  | 0, _ => stopAt .unterminated opening.length
  | _, [] => stopAt .unterminated opening.length
  | fuel + 1, c :: rest =>
    if c = '\x22' then .ok ([], rest)
    else if c = '\\' then
      match rest with
      | [] => stopAt .unterminated opening.length
      | 'u' :: rest =>
        if !isLonger 4 rest then stopAt .codePoint (rest.length + 1)
        else
          match hexQuad? rest with
          | none => stopAt .codePoint (rest.length + 1)
          | some high =>
            let after := rest.drop 4
            let single := fun (_ : Unit) => do
              let (text, rest) ← readText opening fuel after
              return (high :: text, rest)
            if isHighSurrogate high && isLonger 6 after && after.take 2 = ['\\', 'u'] then
              match hexQuad? (after.drop 2) with
              | none => stopAt .codePoint (after.length - 1)
              | some low =>
                if isLowSurrogate low then do
                  let (text, rest) ← readText opening fuel (after.drop 6)
                  let joined := 0x10000 + (high - 0xd800) * 0x400 + (low - 0xdc00)
                  return (joined :: text, rest)
                else single ()
            else single ()
      | e :: rest =>
        match simpleEscape? e with
        | none => stopAt .escape (rest.length + 2)
        | some e => do
          let (text, rest) ← readText opening fuel rest
          return (e.toNat :: text, rest)
    else if c.toNat < 0x20 then stopAt .controlCharacter (rest.length + 1)
    else do
      let (text, rest) ← readText opening fuel rest
      return (c.toNat :: text, rest)

/-- A number, if one begins here. A point or an exponent without digits after
it is left in place. -/
def readNumber (s : List Char) : Option (Except Nat Datum × List Char) :=
  let (negative, body) :=
    match s with
    | '-' :: rest => (true, rest)
    | _ => (false, s)
  let (whole, rest) :=
    match body with
    | '0' :: rest => (['0'], rest)
    | _ => Numeral.takeDigits body
  if whole = [] then none
  else
    let (fraction, rest) :=
      match rest with
      | '.' :: after =>
        let (digits, behind) := Numeral.takeDigits after
        if digits = [] then ([], rest) else (digits, behind)
      | _ => ([], rest)
    match Numeral.takeExponent rest with
    | some (power, rest) =>
      let mantissa := Numeral.valueOf 10 (whole ++ fraction)
      some (.ok (.double (.ofDecimal negative mantissa (power - fraction.length))), rest)
    | none =>
      if fraction ≠ [] then
        let mantissa := Numeral.valueOf 10 (whole ++ fraction)
        some (.ok (.double (.ofDecimal negative mantissa (-fraction.length))), rest)
      else if Numeral.digitLimit < whole.length then some (.error whole.length, rest)
      else some (.ok (.int (Numeral.signed negative (Numeral.valueOf 10 whole))), rest)

/-- The words that stand for a value. -/
def words : List (String × Datum) :=
  [("null", .none), ("true", .bool true), ("false", .bool false), ("NaN", .double .nan),
    ("Infinity", .double (.infinity false)), ("-Infinity", .double (.infinity true))]

def readWord (s : List Char) : Option (Datum × List Char) :=
  words.findSome? fun w =>
    if w.1.toList.isPrefixOf s then some (w.2, s.drop w.1.length) else none

def readSimple (s : List Char) : Except Halt (Datum × List Char) :=
  match readWord s with
  | some (value, rest) => .ok (value, rest)
  | none =>
    match readNumber s with
    | some (.ok value, rest) => .ok (value, rest)
    | some (.error count, _) => .error (.tooManyDigits count)
    | none => stopAt .value s.length

mutual

def readValue : Nat → List Char → Except Halt (Datum × List Char)
  | 0, s => stopAt .value s.length
  | fuel + 1, s =>
    match s with
    | '\x22' :: rest => do
      let (text, rest) ← readText s fuel rest
      return (.ofPoints text, rest)
    | '[' :: rest =>
      match skipSpace rest with
      | ']' :: rest => .ok (.list [], rest)
      | rest => do
        let (items, rest) ← readItems fuel rest
        return (.list items, rest)
    | '\x7b' :: rest =>
      match skipSpace rest with
      | '\x7d' :: rest => .ok (.dict [], rest)
      | rest => do
        let (entries, rest) ← readProperties fuel rest
        return (.ofEntries entries, rest)
    | _ => readSimple s

/-- The items up to the closing bracket. -/
def readItems : Nat → List Char → Except Halt (List Datum × List Char)
  | 0, s => stopAt .value s.length
  | fuel + 1, s => do
    let (item, rest) ← readValue fuel s
    match skipSpace rest with
    | ']' :: rest => return ([item], rest)
    | ',' :: rest =>
      let (items, rest) ← readItems fuel (skipSpace rest)
      return (item :: items, rest)
    | rest => stopAt .comma rest.length

/-- The properties up to the closing brace. -/
def readProperties : Nat → List Char → Except Halt (List (Datum × Datum) × List Char)
  | 0, s => stopAt .propertyName s.length
  | fuel + 1, s =>
    match s with
    | '\x22' :: rest => do
      let (key, rest) ← readText s fuel rest
      match skipSpace rest with
      | ':' :: rest =>
        let (value, rest) ← readValue fuel (skipSpace rest)
        let entry := (Datum.ofPoints key, value)
        match skipSpace rest with
        | '\x7d' :: rest => return ([entry], rest)
        | ',' :: rest =>
          let (entries, rest) ← readProperties fuel (skipSpace rest)
          return (entry :: entries, rest)
        | rest => stopAt .comma rest.length
      | rest => stopAt .colon rest.length
    | _ => stopAt .propertyName s.length

end

def readDocument (s : List Char) : Except Halt Datum := do
  if s.head? = some '\ufeff' then
    let _ ← stopAt (α := Unit) .byteOrderMark s.length
  let (value, rest) ← readValue (2 * s.length + 2) (skipSpace s)
  match skipSpace rest with
  | [] => return value
  | rest => stopAt .extraData rest.length

/-- The datum that a text of JSON stands for. -/
def read (s : List Char) : Except Fault Datum :=
  (readDocument s).mapError fun
    | .stop ⟨cause, left⟩ =>
      let index := s.length - left
      let (line, column) := Text.lineAndColumn s index
      .found cause line column index
    | .tooManyDigits count => .tooManyDigits count

/-- The text that a quoted body stands for. -/
def readQuoted (body : List Char) : Except Fault Datum :=
  read ('\x22' :: body ++ ['\x22'])

end Retrace.Json
