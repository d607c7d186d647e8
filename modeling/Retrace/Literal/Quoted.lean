import Retrace.Datum.Show

/-!
# Text literals

A text stands between two marks of one kind. The backslash, the enclosing mark
and the control characters are escaped; every other character, the two other
marks included, stands for itself. Between quotation marks the result is a
literal of JSON as well.
-/

namespace Retrace.Literal

inductive Mark where
  | apostrophe
  | quotation
  | backtick
  deriving DecidableEq, Repr

namespace Mark

def char : Mark → Char
  | apostrophe => '\''
  | quotation => '\x22'
  | backtick => '\x60'

def all : List Mark := [apostrophe, quotation, backtick]

/-- The mark that a text of one character names. -/
def ofText? (s : String) : Option Mark :=
  all.find? fun m => s.toList == [m.char]

/-- A text that names no mark. -/
structure Unknown where
  text : String
  deriving DecidableEq, Repr

def Unknown.message (u : Unknown) : String := "未対応の囲み文字です: " ++ Datum.quoted u.text

def ofText (s : String) : Except Unknown Mark :=
  match ofText? s with
  | some m => .ok m
  | none => .error ⟨s⟩

theorem char_injective {m n : Mark} (h : m.char = n.char) : m = n := by
  cases m <;> cases n <;> first | rfl | exact absurd h (by decide)

end Mark

/-- The letter that stands for a control character after a backslash. -/
def controlLetter? (c : Char) : Option Char :=
  if c = '\n' then some 'n'
  else if c = '\r' then some 'r'
  else if c = '\t' then some 't'
  else if c = '\x08' then some 'b'
  else if c = '\x0c' then some 'f'
  else none

def escapeChar (m : Mark) (c : Char) : List Char :=
  if c = '\\' || c = m.char then ['\\', c]
  else
    match controlLetter? c with
    | some letter => ['\\', letter]
    | none => if c.toNat < 0x20 then '\\' :: 'u' :: Datum.hexDigits 4 c.toNat else [c]

def escape (m : Mark) (s : List Char) : List Char := s.flatMap (escapeChar m)

def quoteWith (m : Mark) (s : List Char) : List Char := m.char :: escape m s ++ [m.char]

/-- A text between quotation marks. -/
def quote (s : List Char) : List Char := quoteWith .quotation s

/-- Puts a backslash before each quotation mark and changes nothing else. -/
def escapeMarks (s : List Char) : List Char :=
  s.flatMap fun c => if c = '\x22' then ['\\', '\x22'] else [c]

@[simp] theorem escape_nil (m : Mark) : escape m [] = [] := rfl

@[simp] theorem escape_cons (m : Mark) (c : Char) (s : List Char) :
    escape m (c :: s) = escapeChar m c ++ escape m s := rfl

theorem quote_eq (s : List Char) : quote s = '\x22' :: escape .quotation s ++ ['\x22'] := rfl

end Retrace.Literal
