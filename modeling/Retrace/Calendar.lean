/-!
# Dates and times of day

Dates of the proleptic calendar. A time of day may stand in a zone: times with a
zone are equal if they are the same instant, and a time without one equals none
of them. The checks name the first part that is out of range.
-/

namespace Retrace.Calendar

structure Date where
  year : Nat
  month : Nat
  day : Nat
  deriving DecidableEq, Repr

/-- An offset in seconds, under the name by which it was written. -/
structure Zone where
  offset : Int
  name : String
  deriving DecidableEq, Repr

structure Moment where
  date : Date
  hour : Nat
  minute : Nat
  second : Nat
  microsecond : Nat
  zone : Option Zone := none
  deriving DecidableEq, Repr

inductive Fault where
  | offset (seconds : Int)
  | year (value : Nat)
  | month
  | day
  | hour
  | minute
  | second
  | outOfRange
  deriving DecidableEq, Repr

def isLeap (year : Nat) : Bool :=
  (year % 4 == 0 && year % 100 != 0) || year % 400 == 0

def daysInMonth (year month : Nat) : Nat :=
  if month = 2 then (if isLeap year then 29 else 28)
  else if month = 4 || month = 6 || month = 9 || month = 11 then 30
  else 31

def lastYear : Nat := 9999

def secondsInDay : Nat := 86400

def Date.check (d : Date) : Except Fault Date :=
  if d.year < 1 || lastYear < d.year then .error (.year d.year)
  else if d.month < 1 || 12 < d.month then .error .month
  else if d.day < 1 || daysInMonth d.year d.month < d.day then .error .day
  else .ok d

/-- An offset is shorter than a day. -/
def Zone.check (z : Zone) : Except Fault Zone :=
  if z.offset.natAbs < secondsInDay then .ok z else .error (.offset z.offset)

def Moment.check (m : Moment) : Except Fault Moment := do
  let _ ← m.zone.mapM Zone.check
  let _ ← m.date.check
  if 23 < m.hour then .error .hour
  else if 59 < m.minute then .error .minute
  else if 59 < m.second then .error .second
  else .ok m

/-! ## The next second -/

/-- The day after, unless it is the last one. -/
def Date.next (d : Date) : Except Fault Date :=
  if d.day < daysInMonth d.year d.month then .ok { d with day := d.day + 1 }
  else if d.month < 12 then .ok { d with month := d.month + 1, day := 1 }
  else if d.year < lastYear then .ok ⟨d.year + 1, 1, 1⟩
  else .error .outOfRange

def Moment.nextSecond (m : Moment) : Except Fault Moment := do
  if m.second < 59 then return { m with second := m.second + 1 }
  else if m.minute < 59 then return { m with second := 0, minute := m.minute + 1 }
  else if m.hour < 23 then return { m with second := 0, minute := 0, hour := m.hour + 1 }
  else
    let date ← m.date.next
    return { m with second := 0, minute := 0, hour := 0, date }

/-! ## Instants -/

def daysBeforeYear (year : Nat) : Nat :=
  let y := year - 1
  y * 365 + y / 4 - y / 100 + y / 400

def daysBeforeMonth (year month : Nat) : Nat :=
  (List.range (month - 1)).foldl (fun days k => days + daysInMonth year (k + 1)) 0

/-- The days since the first day of the year 1. -/
def Date.number (d : Date) : Nat :=
  daysBeforeYear d.year + daysBeforeMonth d.year d.month + (d.day - 1)

/-- The seconds since the beginning of the year 1, in the zone with an offset. -/
def Moment.secondsFrom (m : Moment) (offset : Int) : Int :=
  (m.date.number * secondsInDay + m.hour * 3600 + m.minute * 60 + m.second : Nat) - offset

def Moment.same (m n : Moment) : Bool :=
  match m.zone, n.zone with
  | none, none => m == n
  | some y, some z =>
    m.secondsFrom y.offset == n.secondsFrom z.offset && m.microsecond == n.microsecond
  | _, _ => false

/-! ## Messages -/

/-- A duration in whole days and the seconds of a day, as it is written out. -/
def durationText (seconds : Int) : String :=
  let days := seconds / secondsInDay
  let rest := seconds % secondsInDay
  let parts := (if days = 0 then [] else [s!"days={days}"])
    ++ (if rest = 0 then [] else [s!"seconds={rest}"])
  "datetime.timedelta(" ++ (if parts.isEmpty then "0" else ", ".intercalate parts) ++ ")"

def Fault.message : Fault → String
  | .offset seconds =>
    "offset must be a timedelta strictly between -timedelta(hours=24) and timedelta(hours=24), not "
      ++ durationText seconds ++ "."
  | .year value => s!"year {value} is out of range"
  | .month => "month must be in 1..12"
  | .day => "day is out of range for month"
  | .hour => "hour must be in 0..23"
  | .minute => "minute must be in 0..59"
  | .second => "second must be in 0..59"
  | .outOfRange => "date value out of range"

@[simp] theorem Zone.check_eq_ok_iff {z y : Zone} :
    z.check = .ok y ↔ z.offset.natAbs < secondsInDay ∧ z = y := by
  unfold check
  split
  · simp_all
  · simp only [reduceCtorEq, false_iff]
    omega

end Retrace.Calendar
