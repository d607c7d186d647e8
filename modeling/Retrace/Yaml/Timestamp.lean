import Retrace.Calendar
import Retrace.Number.Numeral

/-!
# Written times

A date has a year of four digits and may be followed by a time of day, which may
have a fraction of a second and a zone. Fractions are rounded to microseconds; if
that fills up a second, the time is the next second.
-/

namespace Retrace.Yaml

structure Clock where
  hour : Nat
  minute : Nat
  second : Nat
  fraction : List Char
  zone : Option Calendar.Zone
  deriving DecidableEq, Repr

structure Timestamp where
  date : Calendar.Date
  /-- Whether the month and the day have two digits each. -/
  isPadded : Bool
  clock : Option Clock
  deriving DecidableEq, Repr

/-- A number of one or two digits, and what follows it. -/
def takeNumber : List Char → Option (Nat × List Char)
  | a :: b :: rest =>
    if !Numeral.isPlainDigit a then none
    else if Numeral.isPlainDigit b then some (Numeral.valueOf 10 [a, b], rest)
    else some (Numeral.valueOf 10 [a], b :: rest)
  | [a] => if Numeral.isPlainDigit a then some (Numeral.valueOf 10 [a], []) else none
  | [] => none

def takePadded (s : List Char) : Option (Nat × List Char) :=
  match s with
  | a :: b :: _ => if Numeral.isPlainDigit a && Numeral.isPlainDigit b then takeNumber s else none
  | _ => none

/-- What follows a character, if it comes first. -/
def after? (c : Char) : List Char → Option (List Char)
  | d :: rest => if c = d then some rest else none
  | [] => none

def isGap (c : Char) : Bool := c = ' ' || c = '\t'

/-- The offset of a zone that is written up to the end, in seconds. -/
def readOffset : List Char → Option Int
  | ['Z'] => some 0
  | c :: rest => do
    guard (c = '+' || c = '-')
    let (hours, rest) ← takeNumber rest
    let minutes ← readMinutes rest
    return Numeral.signed (c = '-') (hours * 3600 + minutes * 60)
  | [] => none
where
  readMinutes (rest : List Char) : Option Nat := do
    if rest = [] then return 0
    let (minutes, rest) ← takePadded (← after? ':' rest)
    guard (rest = [])
    return minutes

def readZone (s : List Char) : Option Calendar.Zone :=
  (readOffset s).map fun offset => ⟨offset, String.ofList s⟩

/-- What separates a date from a time. -/
def afterSeparator? : List Char → Option (List Char)
  | c :: rest =>
    if c = 'T' || c = 't' then some rest
    else if isGap c then some (rest.dropWhile isGap)
    else none
  | [] => none

def readClock (s : List Char) : Option Clock := do
  let (hour, rest) ← takeNumber s
  let (minute, rest) ← takePadded (← after? ':' rest)
  let (second, rest) ← takePadded (← after? ':' rest)
  let (fraction, rest) :=
    match rest with
    | '.' :: rest => Numeral.takeDigits rest
    | _ => ([], rest)
  let zone ← if rest = [] then some none else some <$> readZone (rest.dropWhile isGap)
  return ⟨hour, minute, second, fraction, zone⟩

def readTimestamp? (s : List Char) : Option Timestamp := do
  let (year, rest) := (s.take 4, s.drop 4)
  guard (year.length = 4 && year.all Numeral.isPlainDigit)
  let afterYear ← after? '-' rest
  let (month, rest) ← takeNumber afterYear
  let afterMonth ← after? '-' rest
  let (day, rest') ← takeNumber afterMonth
  let isPadded := afterYear.length = rest.length + 2 && afterMonth.length = rest'.length + 2
  let clock ← if rest' = [] then some none else some <$> (readClock =<< afterSeparator? rest')
  return ⟨⟨Numeral.valueOf 10 year, month, day⟩, isPadded, clock⟩

/-- A date alone has to be padded. -/
def isTimestamp (s : List Char) : Bool :=
  match readTimestamp? s with
  | some t => t.isPadded || t.clock.isSome
  | none => false

/-- Microseconds, possibly a whole second of them. -/
def microseconds (fraction : List Char) : Nat :=
  let digits := fraction.take 6
  let value := Numeral.valueOf 10 (digits ++ List.replicate (6 - digits.length) '0')
  match fraction.drop 6 with
  | c :: _ => if '4' < c then value + 1 else value
  | [] => value

def Clock.on (date : Calendar.Date) (c : Clock) : Except Calendar.Fault Calendar.Moment := do
  let micros := microseconds c.fraction
  let m ← Calendar.Moment.check
    ⟨date, c.hour, c.minute, c.second, micros % 1000000, c.zone⟩
  if micros < 1000000 then return m else m.nextSecond

end Retrace.Yaml
