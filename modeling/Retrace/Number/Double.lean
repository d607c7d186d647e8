/-!
# Double precision numbers

A number is its 64 bits, so equality is decidable and two zeros differ. The
view takes the bits apart into a sign, a whole mantissa and a power of two;
`ofRatio` goes the other way and rounds to the nearest number, a tie to the
even mantissa.
-/

namespace Retrace

structure Double where
  bits : UInt64
  deriving DecidableEq, Repr, Inhabited

namespace Double

def twoTo (n : Nat) : Nat := Nat.pow 2 n

def tenTo (n : Nat) : Nat := Nat.pow 10 n

/-- A finite number is `mantissa * 2 ^ exponent`, up to its sign. -/
inductive View where
  | nan
  | infinite (negative : Bool)
  | finite (negative : Bool) (mantissa : Nat) (exponent : Int)
  deriving DecidableEq, Repr

def isNegative (x : Double) : Bool := x.bits.toNat / twoTo 63 % 2 = 1

def view (x : Double) : View :=
  let biased : Nat := x.bits.toNat / twoTo 52 % twoTo 11
  let fraction : Nat := x.bits.toNat % twoTo 52
  if biased = 2047 then
    if fraction = 0 then .infinite x.isNegative else .nan
  else if biased = 0 then .finite x.isNegative fraction (-1074)
  else .finite x.isNegative (twoTo 52 + fraction) ((biased : Int) - 1075)

def ofParts (negative : Bool) (biased fraction : Nat) : Double :=
  ⟨UInt64.ofNat ((if negative then twoTo 63 else 0) + biased * twoTo 52 + fraction)⟩

def zero (negative : Bool) : Double := ofParts negative 0 0

def infinity (negative : Bool) : Double := ofParts negative 2047 0

def nan : Double := ofParts false 2047 (twoTo 51)

def negated (x : Double) : Double := ⟨x.bits ^^^ 0x8000000000000000⟩

/-- The nearest whole number to a quotient; a half goes to the even one. -/
def roundQuotient (num den : Nat) : Nat :=
  let q := num / den
  let r := num % den
  if 2 * r < den then q else if den < 2 * r then q + 1 else q + q % 2

/-- `num / den / 2 ^ exponent` as a quotient. -/
def scale (num den : Nat) (exponent : Int) : Nat × Nat :=
  (num * twoTo (-exponent).toNat, den * twoTo exponent.toNat)

/-- A mantissa of at most 53 bits and its exponent, or an infinity. -/
def ofMantissa (negative : Bool) (mantissa : Nat) (exponent : Int) : Double :=
  if mantissa < twoTo 52 then ofParts negative 0 mantissa
  else
    let (mantissa, exponent) :=
      if mantissa = twoTo 53 then (twoTo 52, exponent + 1) else (mantissa, exponent)
    if 972 ≤ exponent then infinity negative
    else ofParts negative (exponent + 1075).toNat (mantissa - twoTo 52)

/-- The number nearest to the quotient of two whole numbers, `den` not zero. -/
def ofRatio (negative : Bool) (num den : Nat) : Double :=
  if num = 0 then zero negative
  else
    let guess : Int := (num.log2 : Int) - den.log2 - 52
    let (n, d) := scale num den guess
    let exponent := max (if n < d * twoTo 52 then guess - 1 else guess) (-1074)
    let (n, d) := scale num den exponent
    ofMantissa negative (roundQuotient n d) exponent

def ofInt (n : Int) : Double := ofRatio (n < 0) n.natAbs 1

def decimalSize (n : Nat) : Nat := (Nat.toDigits 10 n).length

/-- The number nearest to `digits * 10 ^ exponent`. The bounds only spare the
work on powers that are far out of reach. -/
def ofDecimal (negative : Bool) (digits : Nat) (exponent : Int) : Double :=
  if digits = 0 then zero negative
  else
    let size := exponent + decimalSize digits
    if 320 < size then infinity negative
    else if size < -340 then zero negative
    else ofRatio negative (digits * tenTo exponent.toNat) (tenTo (-exponent).toNat)

def isFinite (x : Double) : Bool :=
  match x.view with
  | .finite .. => true
  | _ => false

/-- The value of a number that is finite and whole. -/
def toInt? (x : Double) : Option Int :=
  match x.view with
  | .finite negative mantissa exponent =>
    let (n, d) := scale mantissa 1 (-exponent)
    if n % d = 0 then
      some (if negative then -((n / d : Nat) : Int) else ((n / d : Nat) : Int))
    else none
  | _ => none

/-! ## Arithmetic -/

/-- The number nearest to `mantissa * 2 ^ exponent`. -/
def ofScaled (negative : Bool) (mantissa : Nat) (exponent : Int) : Double :=
  ofRatio negative (mantissa * twoTo exponent.toNat) (twoTo (-exponent).toNat)

def signedMantissa (negative : Bool) (mantissa : Nat) : Int :=
  if negative then -(mantissa : Int) else mantissa

/-- The number nearest to the sum. A sum of zeros is negative if both are. -/
def add (x y : Double) : Double :=
  match x.view, y.view with
  | .nan, _ | _, .nan => nan
  | .infinite a, .infinite b => if a = b then infinity a else nan
  | .infinite a, .finite .. | .finite .., .infinite a => infinity a
  | .finite a m e, .finite b n f =>
    let low := min e f
    let sum := signedMantissa a (m * twoTo (e - low).toNat)
      + signedMantissa b (n * twoTo (f - low).toNat)
    if sum = 0 then zero (a && b) else ofScaled (sum < 0) sum.natAbs low

/-- The number nearest to the product. -/
def mul (x y : Double) : Double :=
  match x.view, y.view with
  | .nan, _ | _, .nan => nan
  | .infinite a, .infinite b => infinity (a != b)
  | .infinite a, .finite b n _ | .finite b n _, .infinite a =>
    if n = 0 then nan else infinity (a != b)
  | .finite a m e, .finite b n f => ofScaled (a != b) (m * n) (e + f)

instance : Add Double := ⟨add⟩

instance : Mul Double := ⟨mul⟩

/-- Equality of values: the zeros agree, and nothing equals what is no number. -/
def sameValue (x y : Double) : Bool :=
  match x.view, y.view with
  | .nan, _ | _, .nan => false
  | .finite _ 0 _, .finite _ 0 _ => true
  | _, _ => x == y

end Double

end Retrace
