import Retrace.Json.Reader
import Retrace.Yaml.Cursor

/-!
# Quoted scalars

Between quotation marks escapes are read; between apostrophes only the doubled
apostrophe is special. A break with the blanks around it is folded into a space,
and further breaks after it are kept.
-/

namespace Retrace.Yaml

open Text

/-- The characters that stand for others after a backslash. -/
def escapes : List (Char × Char) :=
  [('0', '\x00'), ('a', '\x07'), ('b', '\x08'), ('t', '\t'), ('\t', '\t'), ('n', '\n'),
    ('v', '\x0b'), ('f', '\x0c'), ('r', '\r'), ('e', '\x1b'), (' ', ' '), ('\x22', '\x22'),
    ('/', '/'), ('\\', '\\'), ('N', '\x85'), ('_', '\xa0'), ('L', '\u2028'), ('P', '\u2029')]

/-- The letters after which a code point is written, and its number of digits. -/
def codeSizes : List (Char × Nat) := [('x', 2), ('u', 4), ('U', 8)]

def isHexDigit (c : Char) : Bool := (Json.hexValue? c).isSome

def hexValue (digits : List Char) : Nat :=
  digits.foldl (fun n c => n * 16 + (Json.hexValue? c).getD 0) 0

def inQuoted (start : Mark) : Option (Activity × Mark) :=
  some (.scanning "a quoted scalar", start)

def inDoubleQuoted (start : Mark) : Option (Activity × Mark) :=
  some (.scanning "a double-quoted scalar", start)

/-- Breaks after the first one, with the blanks before each. -/
def foldedBreaks (start : Mark) : Nat → Cursor → Except Fault (List Char × Cursor)
  | 0, c => .ok ([], c)
  | fuel + 1, c =>
    if c.atSeparator then fail (inQuoted start) .documentSeparator c.mark
    else
      let c := c.skipWhile fun ch => ch = ' ' || ch = '\t'
      match c.lineBreak with
      | ([], _) => .ok ([], c)
      | (kept, c) => do
        let (more, c) ← foldedBreaks start fuel c
        return (kept ++ more, c)

/-- What a first break and the ones after it amount to. -/
def fold (first more : List Char) : List Char :=
  if first ≠ ['\n'] then first ++ more else if more = [] then [' '] else more

/-- A code point with a given number of digits. -/
def codePoint (start : Mark) (size : Nat) (c : Cursor) : Except Fault (Nat × Cursor) :=
  let digits := (c.rest.take size).takeWhile isHexDigit
  if digits.length < size then
    fail (inDoubleQuoted start)
      (.expected s!"escape sequence of {size} hexdecimal numbers" (c.peekAt digits.length)) c.mark
  else if 0x7fffffff < hexValue digits then .error (.scalar .codePointTooWide)
  else if 0x10ffff < hexValue digits then .error (.scalar .codePoint)
  else .ok (hexValue digits, c.skip size)

/-- The code points of an escape after its backslash. -/
def escapeSequence (start : Mark) (c : Cursor) : Except Fault (List Nat × Cursor) :=
  let ch := c.peek
  match escapes.lookup ch, codeSizes.lookup ch with
  | some out, _ => .ok ([out.toNat], c.next)
  | none, some size => do
    let (out, c) ← codePoint start size c.next
    return ([out], c)
  | none, none =>
    if isBreak ch then do
      let (s, c) ← foldedBreaks start c.size c.lineBreak.2
      return (pointsOf s, c)
    else fail (inDoubleQuoted start) (.unknownEscape ch) c.mark

/-- Blanks, or a break with its blanks, inside a quoted scalar. -/
def quotedSpace (start : Mark) (c : Cursor) : Except Fault (List Char × Cursor) :=
  let (blanks, c) := c.take fun ch => ch = ' ' || ch = '\t'
  if c.rest = [] then fail (inQuoted start) .endOfStream c.mark
  else
    match c.lineBreak with
    | ([], _) => .ok (blanks, c)
    | (first, c) => do
      let (more, c) ← foldedBreaks start c.size c
      return (fold first more, c)

/-- The code points up to the closing mark, and the cursor after it. -/
def quotedText (start : Mark) (isDouble : Bool) : Nat → Cursor → Except Fault (List Nat × Cursor)
  | 0, c => fail (inQuoted start) .endOfStream c.mark
  | fuel + 1, c =>
    let ch := c.peek
    let after := fun (s : List Nat) (c : Cursor) => do
      let (more, c) ← quotedText start isDouble fuel c
      return (s ++ more, c)
    if ch = '\'' && !isDouble then
      if c.peekAt 1 = '\'' then after (pointsOf ['\'']) (c.skip 2) else .ok ([], c.next)
    else if ch = '\x22' && isDouble then .ok ([], c.next)
    else if ch = '\\' && isDouble then do
      let (s, c) ← escapeSequence start c.next
      after s c
    else if c.rest = [] || ch = ' ' || ch = '\t' || isBreak ch then do
      let (s, c) ← quotedSpace start c
      after (pointsOf s) c
    else after (pointsOf [ch]) c.next

/-- A quoted scalar from its opening mark. -/
def quotedScalar (c : Cursor) : Except Fault (List Nat × Cursor) :=
  quotedText c.mark (c.peek = '\x22') (c.size + 1) c.next

end Retrace.Yaml
