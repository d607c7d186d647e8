import Retrace.Number.Double

/-!
# The shortest decimal of a number

A decimal reads back as a double when it lies in the interval of the reals
that round to it; the ends belong to the interval when the mantissa is even.
For one digit, two digits and so on the grid of decimals of that length is
tried: if it meets the interval at all, it does so next to the value itself.
The first grid with a hit gives the answer, and of two hits the nearer.
-/

namespace Retrace.Double

/-- `digits * 10 ^ exponent`. -/
structure Decimal where
  digits : Nat
  exponent : Int
  deriving DecidableEq, Repr

/-- `a * 10 ^ p ≤ b * 2 ^ q`, over the whole numbers. -/
def decimalLE (a : Nat) (p : Int) (b : Nat) (q : Int) : Bool :=
  a * tenTo p.toNat * twoTo (-q).toNat ≤ b * twoTo q.toNat * tenTo (-p).toNat

/-- `b * 2 ^ q ≤ a * 10 ^ p`, over the whole numbers. -/
def binaryLE (b : Nat) (q : Int) (a : Nat) (p : Int) : Bool :=
  b * twoTo q.toNat * tenTo (-p).toNat ≤ a * tenTo p.toNat * twoTo (-q).toNat

/-- The reals that round to `mantissa * 2 ^ exponent`, in quarters of a unit. -/
structure Interval where
  low : Nat
  high : Nat
  exponent : Int
  closed : Bool

def Interval.around (mantissa : Nat) (exponent : Int) : Interval where
  low := if mantissa = twoTo 52 && -1074 < exponent then 4 * mantissa - 1 else 4 * mantissa - 2
  high := 4 * mantissa + 2
  exponent := exponent - 2
  closed := mantissa % 2 = 0

def Interval.contains (i : Interval) (d : Decimal) : Bool :=
  if i.closed then
    binaryLE i.low i.exponent d.digits d.exponent && decimalLE d.digits d.exponent i.high i.exponent
  else
    !decimalLE d.digits d.exponent i.low i.exponent
      && !binaryLE i.high i.exponent d.digits d.exponent

/-- The largest power of ten that is not above `num / den`. -/
def leadingPower (num den : Nat) : Int :=
  if den ≤ num then (decimalSize (num / den) : Int) - 1
  else -(decimalSize ((den + num - 1) / num - 1) : Int)

/-- The best decimal on one grid, if any of it reads back. -/
def onGrid (i : Interval) (mantissa : Nat) (exponent : Int) (power : Int) : Option Decimal :=
  let (n, d) := scale mantissa 1 (-exponent)
  let (n, d) := (n * tenTo (-power).toNat, d * tenTo power.toNat)
  let below : Decimal := ⟨n / d, power⟩
  let above : Decimal := ⟨n / d + 1, power⟩
  match i.contains below, i.contains above with
  | true, true => some (if roundQuotient n d = n / d then below else above)
  | true, false => some below
  | false, true => some above
  | false, false => none

/-- Drops trailing zeros, at most as many as `fuel`. -/
def Decimal.trim : Nat → Decimal → Decimal
  | 0, d => d
  | fuel + 1, d =>
    if d.digits ≠ 0 && d.digits % 10 = 0 then trim fuel ⟨d.digits / 10, d.exponent + 1⟩ else d

/-- The shortest decimal that reads back as `mantissa * 2 ^ exponent`. Seventeen
digits always suffice. -/
def shortest (mantissa : Nat) (exponent : Int) : Decimal :=
  if mantissa = 0 then ⟨0, 0⟩
  else
    let i := Interval.around mantissa exponent
    let (n, d) := scale mantissa 1 (-exponent)
    let top := leadingPower n d
    let found := (List.range 17).findSome? fun (k : Nat) => onGrid i mantissa exponent (top - k)
    (found.getD ⟨0, 0⟩).trim 20

end Retrace.Double
