import Retrace.Yaml.Fault

/-!
# Moving through a YAML text

A cursor is the rest of the text and the mark where it begins. Past the end
stands a character that occurs nowhere in a text. Lines end in a line feed or in
one of the other breaks, of which two are kept in folded text.
-/

namespace Retrace.Yaml

structure Cursor where
  rest : List Char
  mark : Mark := {}
  /-- Of the whole text, a bound for whatever goes through the rest. -/
  size : Nat

/-- Ends a token of one line. -/
def isLineEnd (c : Char) : Bool := c = '\x00' || isBreak c

def isLineEndOrBlank (c : Char) : Bool := isLineEnd c || c = ' ' || c = '\t'

/-- Ends a word in a directive or a tag. -/
def isWordEnd (c : Char) : Bool := c = ' ' || isLineEnd c

namespace Cursor

def ofText (s : List Char) : Cursor where
  rest := s
  size := s.length

def peek (c : Cursor) : Char := c.rest.headD '\x00'

def peekAt (c : Cursor) (n : Nat) : Char := (c.rest.drop n).headD '\x00'

def next (c : Cursor) : Cursor :=
  match c.rest with
  | [] => c
  | ch :: rest => { c with rest, mark := c.mark.after ch }

def skip : Nat → Cursor → Cursor
  | 0, c => c
  | n + 1, c => skip n c.next

def column (c : Cursor) : Nat := c.mark.column

/-- The characters that satisfy a condition, and the cursor after them. -/
def take (p : Char → Bool) (c : Cursor) : List Char × Cursor :=
  let taken := c.rest.takeWhile p
  (taken, c.skip taken.length)

def skipWhile (p : Char → Bool) (c : Cursor) : Cursor := (c.take p).2

def skipSpaces (c : Cursor) : Cursor := c.skipWhile (· = ' ')

/-- A break, if there is one: as it is kept in a text, and the cursor after it. -/
def lineBreak (c : Cursor) : List Char × Cursor :=
  let ch := c.peek
  if ch = '\n' || ch = '\x85' then (['\n'], c.next)
  else if isBreak ch then ([ch], c.next)
  else ([], c)

def skipComment (c : Cursor) : Cursor :=
  if c.peek = '#' then c.skipWhile fun ch => !isLineEnd ch else c

/-- Three characters of one kind and then a blank. -/
def isTriple (ch : Char) (c : Cursor) : Bool :=
  c.rest.take 3 = [ch, ch, ch] && isLineEndOrBlank (c.peekAt 3)

/-- A document begins or ends here, if this is the start of a line. -/
def atSeparator (c : Cursor) : Bool := c.isTriple '-' || c.isTriple '.'

/-- Passes over spaces, comments and breaks; inside brackets over tabs as well.
The flag tells whether there was a break. -/
def toToken (bracketed : Bool) : Nat → Cursor → Bool × Cursor
  | 0, c => (false, c)
  | fuel + 1, c =>
    let c := (c.skipWhile fun ch => ch = ' ' || (bracketed && ch = '\t')).skipComment
    match c.lineBreak with
    | ([], _) => (false, c)
    | (_, c) => (true, (toToken bracketed fuel c).2)

end Cursor

end Retrace.Yaml
