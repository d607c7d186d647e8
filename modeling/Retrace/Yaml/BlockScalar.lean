import Retrace.Yaml.Cursor

/-!
# Literal and folded scalars

The header of a block scalar may fix its indentation and say what becomes of the
breaks at its end: one is kept, or all, or none. In a folded scalar a break
between two lines that are not indented further is a space.
-/

namespace Retrace.Yaml

inductive Chomping where
  | clip
  | keep
  | strip
  deriving DecidableEq, Repr

def inBlockScalar (start : Mark) : Option (Activity × Mark) :=
  some (.scanning "a block scalar", start)

def isDigitChar (c : Char) : Bool := '0' ≤ c && c ≤ '9'

def chomping? (c : Char) : Option Chomping :=
  if c = '+' then some .keep else if c = '-' then some .strip else none

/-- A digit other than zero, if there is a digit. -/
def increment (start : Mark) (c : Cursor) : Except Fault (Option Nat × Cursor) :=
  let ch := c.peek
  if !isDigitChar ch then .ok (none, c)
  else if ch = '0' then fail (inBlockScalar start) .zeroIndentation c.mark
  else .ok (some (ch.toNat - '0'.toNat), c.next)

/-- The header after its mark, in either order. -/
def blockHeader (start : Mark) (c : Cursor) :
    Except Fault (Chomping × Option Nat × Cursor) := do
  let (chomping, size, c) ←
    match chomping? c.peek with
    | some chomping => do
      let (size, c) ← increment start c.next
      pure (chomping, size, c)
    | none => do
      let (size, c) ← increment start c
      match size.bind fun _ => chomping? c.peek with
      | some chomping => pure (chomping, size, c.next)
      | none => pure (Chomping.clip, size, c)
  if isWordEnd c.peek then return (chomping, size, c)
  else fail (inBlockScalar start) (.expected "chomping or indentation indicators" c.peek) c.mark

/-- The rest of the header's line. -/
def headerEnd (start : Mark) (c : Cursor) : Except Fault Cursor :=
  let c := c.skipSpaces.skipComment
  if isLineEnd c.peek then .ok c.lineBreak.2
  else fail (inBlockScalar start) (.expected "a comment or a line break" c.peek) c.mark

/-- Blank lines before the text, and its indentation. -/
structure Leading where
  breaks : List Char
  widest : Nat
  first : Option Nat
  stop : Mark
  cursor : Cursor

def leadingFrom : Nat → Leading → Leading
  | 0, l => l
  | fuel + 1, l =>
    let c := l.cursor
    if c.peek = ' ' then
      leadingFrom fuel { l with cursor := c.next, widest := max l.widest c.next.column }
    else
      match c.lineBreak with
      | ([], _) => l
      | (kept, after) =>
        leadingFrom fuel
          { l with
            breaks := l.breaks ++ kept
            first := some (l.first.getD c.column)
            stop := after.mark
            cursor := after }

/-- A blank line indented further than the first one was begun does not fit. -/
def leading (c : Cursor) : Except Fault Leading :=
  let l := leadingFrom c.size ⟨[], 0, none, c.mark, c⟩
  let first := l.first.getD 0
  if 0 < first && first < l.widest then
    .error (.complaint
      ⟨some (.note "more indented follow up line than first in a block scalar", l.cursor.mark),
        none⟩)
  else .ok l

/-- At most `indent` columns of spaces. -/
def skipIndent (indent : Nat) : Nat → Cursor → Cursor
  | 0, c => c
  | fuel + 1, c => if c.column < indent && c.peek = ' ' then skipIndent indent fuel c.next else c

/-- Blank lines, and the indentation of the line after them. -/
def blankLines (indent : Nat) : Nat → Cursor → Mark → List Char × Mark × Cursor
  | 0, c, stop => ([], stop, c)
  | fuel + 1, c, stop =>
    let c := skipIndent indent indent c
    match c.lineBreak with
    | ([], _) => ([], stop, c)
    | (kept, c) =>
      let (more, stop, c) := blankLines indent fuel c c.mark
      (kept ++ more, stop, c)

def blanks (indent : Nat) (c : Cursor) : List Char × Mark × Cursor :=
  blankLines indent (c.size + 1) c c.mark

structure BlockText where
  /-- The characters so far, the last one first. -/
  reversed : List Char
  lastBreak : List Char
  breaks : List Char
  stop : Mark
  cursor : Cursor

/-- What stands between two lines of the text. -/
def betweenLines (folded : Bool) (line lastBreak breaks : List Char) (next : Char) : List Char :=
  let flush := fun (c : Char) => c != ' ' && c != '\t'
  if folded && lastBreak = ['\n'] && flush (line.headD '\x00') && flush next then
    if breaks = [] then [' '] else []
  else lastBreak

def blockLines (folded topLevel : Bool) (indent : Nat) : Nat → BlockText → BlockText
  | 0, b => b
  | fuel + 1, b =>
    if b.cursor.column = indent && b.cursor.rest ≠ [] then
      let (line, c) := b.cursor.take fun ch => !isLineEnd ch
      let (lastBreak, c) := c.lineBreak
      let (breaks, stop, c) := blanks indent c
      let reversed := line.reverse ++ (b.breaks.reverse ++ b.reversed)
      let here : BlockText := ⟨reversed, lastBreak, breaks, stop, c⟩
      if topLevel && c.column = 0 && c.atSeparator then here
      else if c.column = indent && c.rest ≠ [] then
        let between := betweenLines folded line lastBreak breaks c.peek
        blockLines folded topLevel indent fuel
          { here with reversed := between.reverse ++ reversed }
      else here
    else b

/-- A block scalar from its mark: the text, where it stops, and the cursor after it. -/
def blockScalar (parentIndent : Int) (c : Cursor) :
    Except Fault (List Char × Mark × Cursor) := do
  let start := c.mark
  let folded := c.peek = '>'
  let (chomping, size, c) ← blockHeader start c.next
  let c ← headerEnd start c
  let least := (parentIndent + 1).toNat
  let (indent, begun) ←
    match size with
    | none => do
      let l ← leading c
      pure (max least l.widest, BlockText.mk [] [] l.breaks l.stop l.cursor)
    | some size =>
      let indent := max least 1 + size - 1
      let (breaks, stop, c) := blanks indent c
      pure (indent, BlockText.mk [] [] breaks stop c)
  let topLevel := least = 0 && size.isNone
  let b := blockLines folded topLevel indent (c.size + 1) begun
  let text := b.reversed.reverse ++ (if chomping = .strip then [] else b.lastBreak)
    ++ (if chomping = .keep then b.breaks else [])
  return (text, b.stop, b.cursor)

end Retrace.Yaml
