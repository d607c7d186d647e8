import Retrace.Datum.Basic
import Retrace.Number.Layout
import Retrace.Text.Printable

/-!
# Data as messages show them

Texts are quoted, with the apostrophe unless only the quotation mark is free;
control characters and all others that do not print are written by number.
A text on its own is shown as it is. A collection that is met again inside
itself is shown by dots.
-/

namespace Retrace.Datum

open Text

def hexDigits (width n : Nat) : List Char :=
  Double.padLeft width '0' (Nat.toDigits 16 n)

/-- The mark that encloses a quoted text. -/
def quoteMark (s : List Char) : Char :=
  if s.contains '\'' && !s.contains '"' then '"' else '\''

def showChar (mark c : Char) : List Char :=
  if c = mark || c = '\\' then ['\\', c]
  else if c = '\n' then ['\\', 'n']
  else if c = '\r' then ['\\', 'r']
  else if c = '\t' then ['\\', 't']
  else if isPrintable c then [c]
  else if c.toNat < 0x100 then '\\' :: 'x' :: hexDigits 2 c.toNat
  else if c.toNat < 0x10000 then '\\' :: 'u' :: hexDigits 4 c.toNat
  else '\\' :: 'U' :: hexDigits 8 c.toNat

def showText (s : List Char) : List Char :=
  let mark := quoteMark s
  mark :: s.flatMap (showChar mark) ++ [mark]

def quoted (s : String) : String := String.ofList (showText s.toList)

/-- A text with halves, which are shown by number. -/
def showPoints (points : List Nat) : List Char :=
  let mark := quoteMark (points.map Text.viewed)
  mark :: points.flatMap
    (fun n => if isHalf n then halfEscape n else showChar mark (Char.ofNat n)) ++ [mark]

def showByte (mark : Char) (b : UInt8) : List Char :=
  let c := Char.ofNat b.toNat
  if b < 0x7f then showChar mark c else '\\' :: 'x' :: hexDigits 2 b.toNat

def showBytes (bs : List UInt8) : String :=
  let mark := quoteMark (bs.map fun b => Char.ofNat b.toNat)
  String.ofList ('b' :: mark :: bs.flatMap (showByte mark) ++ [mark])

def showDouble (x : Double) : String := String.ofList (x.text .standard)

def showComplex (re im : Double) : String :=
  let bare := fun (x : Double) => String.ofList (x.text .bare)
  if re = .zero false then bare im ++ "j"
  else
    let plus := if im.isNegative && im != .nan then "" else "+"
    "(" ++ bare re ++ plus ++ bare im ++ "j)"

def showDate (d : Calendar.Date) : String :=
  s!"datetime.date({d.year}, {d.month}, {d.day})"

def showZone (z : Calendar.Zone) : String :=
  s!"datetime.timezone({Calendar.durationText z.offset}, {quoted z.name})"

/-- The seconds are left out when nothing but zeros would follow. -/
def showMoment (m : Calendar.Moment) : String :=
  let tail :=
    if m.microsecond ≠ 0 then [m.second, m.microsecond]
    else if m.second ≠ 0 then [m.second] else []
  let parts := [m.date.year, m.date.month, m.date.day, m.hour, m.minute] ++ tail
  let zone := (m.zone.map fun z => ", tzinfo=" ++ showZone z).getD ""
  "datetime.datetime(" ++ ", ".intercalate (parts.map toString) ++ zone ++ ")"

/-- How a collection is shown inside itself. -/
def dots : Datum → String
  | .list _ => "[...]"
  | .tuple _ => "(...)"
  | .dict _ | .set _ => "\x7b...\x7d"
  | _ => "..."

/-- A part of a knot: its dots, and its form once the forms of its links are known. -/
abbrev ShownPart := String × ((Nat → String) → String)

/-- The form of a part inside the parts whose numbers are given. -/
def showLinked (parts : List ShownPart) : Nat → List Nat → Nat → String
  | 0, _, _ => ""
  | fuel + 1, outer, number =>
    match parts[number]? with
    | some (again, form) =>
      if outer.contains number then again else form (showLinked parts fuel (number :: outer))
    | Option.none => ""

mutual

/-- The quoted form of a datum, `link` giving that of a link. -/
def showWith (link : Nat → String) : Datum → String
  | .none => "None"
  | .bool b => if b then "True" else "False"
  | .int n => toString n
  | .double x => showDouble x
  | .text s => quoted s
  | .brokenText points => String.ofList (showPoints points)
  | .list xs => "[" ++ ", ".intercalate (showAll link xs) ++ "]"
  | .tuple xs =>
    "(" ++ ", ".intercalate (showAll link xs) ++ (if xs.length = 1 then ",)" else ")")
  | .dict es => "\x7b" ++ ", ".intercalate (showEntries link es) ++ "\x7d"
  | .orderedDict es =>
    if es.isEmpty then "ordereddict()"
    else "ordereddict([" ++ ", ".intercalate (showPairs link es) ++ "])"
  | .bytes bs => showBytes bs
  | .set xs =>
    if xs.isEmpty then "set()" else "\x7b" ++ ", ".intercalate (showAll link xs) ++ "\x7d"
  | .complex re im => showComplex re im
  | .ellipsis => "Ellipsis"
  | .date d => showDate d
  | .moment m => showMoment m
  | .object _ form => form
  | .knot parts number => showLinked (showParts parts) (parts.length + 1) [] number
  | .link number => link number

def showAll (link : Nat → String) : List Datum → List String
  | [] => []
  | x :: xs => showWith link x :: showAll link xs

def showEntries (link : Nat → String) : List (Datum × Datum) → List String
  | [] => []
  | (k, v) :: es => (showWith link k ++ ": " ++ showWith link v) :: showEntries link es

def showPairs (link : Nat → String) : List (Datum × Datum) → List String
  | [] => []
  | (k, v) :: es =>
    ("(" ++ showWith link k ++ ", " ++ showWith link v ++ ")") :: showPairs link es

def showParts : List Datum → List ShownPart
  | [] => []
  | d :: ds => (dots d, fun link => showWith link d) :: showParts ds

end

/-- The quoted form of a datum. -/
def shown (d : Datum) : String := showWith (fun _ => "") d

def padded (width n : Nat) : String :=
  String.ofList (Double.padLeft width '0' (toString n).toList)

def plainDate (d : Calendar.Date) : String :=
  padded 4 d.year ++ "-" ++ padded 2 d.month ++ "-" ++ padded 2 d.day

/-- Offsets have whole minutes. -/
def plainZone (z : Calendar.Zone) : String :=
  let minutes := z.offset.natAbs / 60
  (if z.offset < 0 then "-" else "+") ++ padded 2 (minutes / 60) ++ ":" ++ padded 2 (minutes % 60)

def plainMoment (m : Calendar.Moment) : String :=
  let fraction := if m.microsecond = 0 then "" else "." ++ padded 6 m.microsecond
  let zone := (m.zone.map plainZone).getD ""
  plainDate m.date ++ " " ++ padded 2 m.hour ++ ":" ++ padded 2 m.minute ++ ":"
    ++ padded 2 m.second ++ fraction ++ zone

/-- The form of a datum inside a sentence. -/
def plain : Datum → String
  | .text s => s
  | .brokenText points => String.ofList (escapeHalves points)
  | .date d => plainDate d
  | .moment m => plainMoment m
  | x => x.shown

/-- The form of a datum inside a sentence that a text with halves cannot get into: for each
of its bytes a half is replaced by one character. -/
def lossy : Datum → String
  | .brokenText points =>
    String.ofList (points.flatMap fun n =>
      List.replicate (if isHalf n then 3 else 1) (Text.viewed n))
  | d => d.plain

end Retrace.Datum
