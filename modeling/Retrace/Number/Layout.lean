import Retrace.Number.Shortest

/-!
# The text of a number

Where the point stands, when an exponent is written and how is fixed by one
record of choices; the digits are those of the shortest decimal.
-/

namespace Retrace.Double

structure Layout where
  /-- The first digit's power of ten, at which positional notation begins. -/
  leastPositional : Int
  /-- The first digit's power of ten, at which it has ended. -/
  firstExponential : Int
  /-- Closes a whole number in positional notation. -/
  wholeMark : List Char
  exponentMark : Char
  exponentDigits : Nat

/-- Positional from a ten-thousandth to below ten to the sixteenth. -/
def Layout.standard : Layout := ⟨-4, 16, ['.', '0'], 'e', 2⟩

/-- As the standard one, but whole numbers carry no fraction. -/
def Layout.bare : Layout := { Layout.standard with wholeMark := [] }

def digitsOf (n : Nat) : List Char := Nat.toDigits 10 n

def padLeft (width : Nat) (c : Char) (s : List Char) : List Char :=
  List.replicate (width - s.length) c ++ s

def Layout.write (l : Layout) (d : Decimal) : List Char :=
  let digits := digitsOf d.digits
  let point : Int := (digits.length : Int) + d.exponent
  if l.leastPositional < point && point ≤ l.firstExponential then
    if point ≤ 0 then '0' :: '.' :: List.replicate (-point).toNat '0' ++ digits
    else if digits.length ≤ point.toNat then
      digits ++ List.replicate (point.toNat - digits.length) '0' ++ l.wholeMark
    else digits.take point.toNat ++ '.' :: digits.drop point.toNat
  else
    let power := point - 1
    let mantissa :=
      match digits with
      | [] => []
      | [c] => [c]
      | c :: rest => c :: '.' :: rest
    mantissa ++ l.exponentMark :: (if power < 0 then '-' else '+')
      :: padLeft l.exponentDigits '0' (digitsOf power.natAbs)

def text (l : Layout) (x : Double) : List Char :=
  match x.view with
  | .nan => "nan".toList
  | .infinite negative => (if negative then "-inf" else "inf").toList
  | .finite negative mantissa exponent =>
    (if negative then ['-'] else []) ++ l.write (shortest mantissa exponent)

end Retrace.Double
