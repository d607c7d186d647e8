/-!
# Halves of surrogate pairs

An escape can name half a surrogate pair, which is a code point without a
character. A text that holds such a half is known by its code points. It can be
compared and shown, but not be encoded.

Where there has to be a character, a view puts one in the place of a half.
Whatever is made of a text copies its halves and does nothing else with them, so
two views of it differ where there are halves, and nowhere else.
-/

namespace Retrace.Text

def isHighSurrogate (n : Nat) : Bool := 0xd800 ≤ n && n < 0xdc00

def isLowSurrogate (n : Nat) : Bool := 0xdc00 ≤ n && n < 0xe000

def isHalf (n : Nat) : Bool := isHighSurrogate n || isLowSurrogate n

/-- A half by its number. -/
def halfEscape (n : Nat) : List Char := '\\' :: 'u' :: Nat.toDigits 16 n

/-- A text with its halves by their numbers, which is how a stream shows what it cannot take. -/
def escapeHalves (points : List Nat) : List Char :=
  points.flatMap fun n => if isHalf n then halfEscape n else [Char.ofNat n]

/-- The code points of a text without halves. -/
def pointsOf (s : List Char) : List Nat := s.map Char.toNat

/-! ## Views -/

/-- The characters that stand for halves. -/
class View where
  ofHalf : Nat → Char

namespace View

/-- Where nothing depends on the halves, they are shown by the replacement character. -/
instance : View := ⟨fun _ => '\ufffd'⟩

/-- Halves as characters of the first private plane. -/
@[reducible]
def lower : View := ⟨fun n => Char.ofNat (0xf0000 + n)⟩

/-- Halves as characters of the second private plane. -/
@[reducible]
def upper : View := ⟨fun n => Char.ofNat (0x100000 + n)⟩

/-- The code point that two characters at one place in the lower and in the upper view
stand for. -/
def codePoint (lower upper : Char) : Nat :=
  if lower = upper then lower.toNat else lower.toNat - 0xf0000

end View

/-- The character that a view shows for a code point. -/
def viewed [View] (n : Nat) : Char := if isHalf n then View.ofHalf n else Char.ofNat n

/-- The code points of a text of which a lower and an upper view are given. -/
def seen (lower upper : List Char) : List Nat := List.zipWith View.codePoint lower upper

/-! ## Texts that cannot be encoded -/

/-- The first halves of a text, one behind the other, and their place in it. -/
structure Unencodable where
  place : Nat
  halves : List Nat
  deriving DecidableEq, Repr

namespace Unencodable

/-- The first halves of a text. -/
def firstIn (points : List Nat) : Unencodable where
  place := (points.takeWhile fun n => !isHalf n).length
  halves := (points.dropWhile fun n => !isHalf n).takeWhile isHalf

def message (u : Unencodable) : String :=
  let what :=
    match u.halves with
    | [half] => s!"character '{String.ofList (halfEscape half)}' in position {u.place}"
    | halves => s!"characters in position {u.place}-{u.place + halves.length - 1}"
  s!"'utf-8' codec can't encode {what}: surrogates not allowed"

end Unencodable

/-- The characters of a text, if nothing in it is half a pair. -/
def characters (points : List Nat) : Except Unencodable (List Char) :=
  if points.any isHalf then .error (.firstIn points) else .ok (points.map Char.ofNat)

end Retrace.Text
