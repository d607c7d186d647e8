import Retrace.Text.Ranges

/-!
# Blank characters

White space and the separators among the control characters, `\x1c` to
`\x1f` and `\x85` included. Stripping removes them from the ends of a text
and nowhere else.
-/

namespace Retrace.Text

def blankRanges : List (Nat × Nat) :=
   [(0x9, 0xd), (0x1c, 0x20), (0x85, 0x85), (0xa0, 0xa0), (0x1680, 0x1680), (0x2000, 0x200a),
    (0x2028, 0x2029), (0x202f, 0x202f), (0x205f, 0x205f), (0x3000, 0x3000)]

def isBlank (c : Char) : Bool := inRanges blankRanges c

def stripStart (s : List Char) : List Char := s.dropWhile isBlank

def stripEnd (s : List Char) : List Char := (s.reverse.dropWhile isBlank).reverse

def strip (s : List Char) : List Char := stripEnd (stripStart s)

theorem isBlank_space : isBlank ' ' = true := by decide

end Retrace.Text
