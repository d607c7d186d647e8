import Retrace.Yaml.Cursor
import Retrace.Yaml.Version

/-!
# Plain scalars

A plain scalar ends before a blank that is followed by a comment, before a colon
with a blank after it, and inside brackets before a bracket or a comma, in the
early version also before a question mark. It may go on over several lines, which
are folded as in quoted scalars.
-/

namespace Retrace.Yaml

def isFlowIndicator (c : Char) : Bool :=
  c = ',' || c = '[' || c = ']' || c = '\x7b' || c = '\x7d'

/-- The word ends before `c`, which `next` follows. -/
def endsWord (v : Version) (bracketed : Bool) (c next : Char) : Bool :=
  isLineEndOrBlank c || (c = ':' && isLineEndOrBlank next)
    || (bracketed && (isFlowIndicator c || (v = .early && c = '?')))

def plainWord (v : Version) (bracketed : Bool) : List Char → List Char
  | [] => []
  | c :: rest =>
    if endsWord v bracketed c (rest.headD '\x00') then [] else c :: plainWord v bracketed rest

/-- The breaks after a first one, or nothing if a document begins or ends there. -/
def plainBreaks : Nat → Cursor → Option (List Char) × Cursor
  | 0, c => (some [], c)
  | fuel + 1, c =>
    if c.peek = ' ' then plainBreaks fuel c.next
    else
      match c.lineBreak with
      | ([], _) => (some [], c)
      | (kept, c) =>
        if c.atSeparator then (none, c)
        else
          let (more, c) := plainBreaks fuel c
          (more.map (kept ++ ·), c)

/-- The space between two words; the flag tells whether it contains a break. -/
def plainSpace (c : Cursor) : Option (List Char) × Bool × Cursor :=
  let (blanks, c) := c.take (· = ' ')
  match c.lineBreak with
  | ([], _) => (if blanks = [] then none else some blanks, false, c)
  | (first, c) =>
    if c.atSeparator then (none, true, c)
    else
      let (more, c) := plainBreaks c.size c
      let folded := more.map fun more =>
        if first ≠ ['\n'] then first ++ more else if more = [] then [' '] else more
      (folded, true, c)

structure PlainText where
  /-- The characters so far, the last one first. -/
  reversed : List Char
  stop : Mark
  /-- There was a break after the last word. -/
  broken : Bool
  cursor : Cursor

def PlainText.text (p : PlainText) : List Char := p.reversed.reverse

/-- The words from here on, after `space`. -/
def plainFrom (v : Version) (bracketed : Bool) (indent : Int) :
    Nat → List Char → PlainText → PlainText
  | 0, _, p => p
  | fuel + 1, space, p =>
    let word := plainWord v bracketed p.cursor.rest
    if p.cursor.peek = '#' || word = [] then p
    else
      let c := p.cursor.skip word.length
      let (between, broken, after) := plainSpace c
      let here : PlainText := ⟨word.reverse ++ (space.reverse ++ p.reversed), c.mark, broken, after⟩
      match between with
      | none => here
      | some between =>
        if after.peek = '#' || (!bracketed && (after.column : Int) < indent) then here
        else plainFrom v bracketed indent fuel between here

/-- A plain scalar from its first character. -/
def plainScalar (v : Version) (bracketed : Bool) (parentIndent : Int) (c : Cursor) :
    PlainText :=
  plainFrom v bracketed (parentIndent + 1) (c.size + 1) [] ⟨[], c.mark, false, c⟩

end Retrace.Yaml
