import Retrace.Text.Lines

/-!
# Places in a YAML text

A mark counts characters, lines and columns from zero. It is shown with its line
of the text, cut to a window around the mark, and a caret below the column.
-/

namespace Retrace.Yaml

structure Mark where
  index : Nat := 0
  line : Nat := 0
  column : Nat := 0
  deriving DecidableEq, Repr

/-- Ends a line, also in the middle of a scalar. -/
def isBreak (c : Char) : Bool := c = '\n' || c = '\x85' || c = '\u2028' || c = '\u2029'

/-- The mark after a character. Of the breaks only the line feed begins a new line
for marks, and a byte order mark takes no column. -/
def Mark.after (m : Mark) (c : Char) : Mark :=
  if c = '\n' then ⟨m.index + 1, m.line + 1, 0⟩
  else ⟨m.index + 1, m.line, if c = '\ufeff' then m.column else m.column + 1⟩

/-- The characters shown on each side of a mark, at most. -/
def windowSize : Nat := 36

/-- The part of the line before the mark, and whether some of it is left out. -/
def windowBefore (before : List Char) : Bool × List Char :=
  let part := before.reverse.takeWhile fun c => !isBreak c
  if windowSize < part.length then (true, (part.take (windowSize - 4)).reverse)
  else (false, part.reverse)

/-- The part of the line after the mark, and whether some of it is left out. -/
def windowAfter (after : List Char) : Bool × List Char :=
  let part := after.takeWhile fun c => !isBreak c
  if windowSize < part.length then (true, part.take (windowSize - 4)) else (false, part)

def ellipsis (isCut : Bool) : List Char := if isCut then " ... ".toList else []

def Mark.snippet (m : Mark) (source : List Char) : List Char :=
  let (cutBefore, before) := windowBefore (source.take m.index)
  let (cutAfter, after) := windowAfter (source.drop m.index)
  let margin := List.replicate 4 ' '
  let head := ellipsis cutBefore
  margin ++ head ++ before ++ after ++ ellipsis cutAfter
    ++ '\n' :: margin ++ List.replicate (head.length + before.length) ' '
    ++ s!"^ (line: {m.line + 1})".toList

def Mark.text (m : Mark) (source : List Char) : String :=
  s!"  in \x22<unicode string>\x22, line {m.line + 1}, column {m.column + 1}:\n"
    ++ String.ofList (m.snippet source)

end Retrace.Yaml
