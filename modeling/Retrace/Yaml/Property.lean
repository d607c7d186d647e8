import Retrace.Json.Reader
import Retrace.Number.Numeral
import Retrace.Text.Utf8
import Retrace.Yaml.Cursor
import Retrace.Yaml.Token
import Retrace.Yaml.Version

/-!
# Directives, tags and anchors

A tag is a handle and a suffix, or a suffix alone. Percent signs in it encode
bytes. The names of anchors may hold everything that prints, apart from the
indicators of flow collections.
-/

namespace Retrace.Yaml

def isAlphaNumeric (c : Char) : Bool :=
  ('0' ≤ c && c ≤ '9') || ('A' ≤ c && c ≤ 'Z') || ('a' ≤ c && c ≤ 'z')

def isPlainDigit (c : Char) : Bool := '0' ≤ c && c ≤ '9'

def decimal (digits : List Char) : Nat :=
  digits.foldl (fun n c => n * 10 + (c.toNat - '0'.toNat)) 0

/-! ## Anchors -/

def isAnchorChar (c : Char) : Bool :=
  !(c = ',' || c = '[' || c = ']' || c = '\x7b' || c = '\x7d')
    && (('\x21' ≤ c && c ≤ '\x7e')
      || ('\xa0' ≤ c && c != '\ufeff' && c != '\ufffe' && c != '\uffff'))

/-- What may follow the name of an anchor. -/
def endsAnchor (c : Char) : Bool :=
  isWordEnd c || "\t?:,[]\x7b\x7d%@\x60".toList.contains c

/-- The name after an anchor's or a reference's mark. -/
def anchorName (what : String) (c : Cursor) : Except Fault (List Char × Cursor) :=
  let context := some (Activity.scanning what, c.mark)
  let (name, after) := c.next.take isAnchorChar
  let wrong := Problem.expected "alphabetic or numeric character" after.peek
  if name = [] then fail context wrong after.mark
  else if endsAnchor after.peek then .ok (name, after)
  else fail context wrong after.mark

/-! ## Tags -/

/-- The early version does not know the number sign. -/
def isUriChar (v : Version) (c : Char) : Bool :=
  isAlphaNumeric c || "-;/?:@&=+$,_.!~*'()[]%".toList.contains c || (v = .current && c = '#')

/-- The bytes that percent signs encode from here on. -/
def percentBytes (context : Option (Activity × Mark)) :
    Nat → Cursor → Except Fault (List UInt8 × Cursor)
  | 0, c => .ok ([], c)
  | fuel + 1, c =>
    if c.peek != '%' then .ok ([], c)
    else
      let c := c.next
      let digits := (c.rest.take 2).takeWhile fun ch => (Json.hexValue? ch).isSome
      if digits.length < 2 then
        fail context
          (.expected "URI escape sequence of 2 hexdecimal numbers" (c.peekAt digits.length)) c.mark
      else do
        let byte := digits.foldl (fun n ch => n * 16 + (Json.hexValue? ch).getD 0) 0
        let (more, c) ← percentBytes context fuel (c.skip 2)
        return (UInt8.ofNat byte :: more, c)

def uriFrom (v : Version) (what : String) (start : Mark) :
    Nat → Cursor → Except Fault (List Char × Cursor)
  | 0, c => .ok ([], c)
  | fuel + 1, c =>
    if c.peek = '%' then do
      let context := some (Activity.scanning ("an " ++ what), start)
      let (bytes, after) ← percentBytes context c.size c
      match Text.Utf8.decode bytes with
      | .ok s =>
        let (more, c) ← uriFrom v what start fuel after
        return (s ++ more, c)
      | .error _ => fail context (.note "invalid bytes in an escape sequence") c.mark
    else if isUriChar v c.peek then do
      let (more, after) ← uriFrom v what start fuel c.next
      return (c.peek :: more, after)
    else .ok ([], c)

/-- An address, of a tag or in a directive. -/
def uri (v : Version) (what : String) (start : Mark) (c : Cursor) :
    Except Fault (List Char × Cursor) := do
  let (s, after) ← uriFrom v what start c.size c
  if s = [] then
    fail (some (.parsing ("an " ++ what), start)) (.expected "URI" after.peek) after.mark
  else return (s, after)

/-- A handle: a word between exclamation marks, or one exclamation mark. -/
def handle (what : String) (start : Mark) (c : Cursor) : Except Fault (List Char × Cursor) :=
  let context := some (Activity.scanning ("an " ++ what), start)
  if c.peek != '!' then fail context (.expected "'!'" c.peek) c.mark
  else if c.peekAt 1 = ' ' then .ok (['!'], c.next)
  else
    let (word, after) := c.next.take fun ch => isAlphaNumeric ch || ch = '-' || ch = '_'
    if after.peek = '!' then .ok ('!' :: word ++ ['!'], after.next)
    else fail context (.note s!"expected '!' but found {quotedChar after.peek}") after.mark

/-- Another exclamation mark stands in the same word. -/
def hasSecondMark (c : Cursor) : Bool :=
  (c.next.rest.takeWhile fun ch => !isWordEnd ch).contains '!'

/-- What follows the marks of a tag, of which `c` is at the last one. Without a handle
between marks, the marks themselves are the handle, or all there is of the tag. -/
def tagBody (v : Version) (start : Mark) (marks : List Char) (c : Cursor) :
    Except Fault (Option (List Char) × List Char × Cursor) :=
  if c.peekAt 1 = '<' then do
    let (suffix, c) ← uri v "tag" start (c.skip 2)
    if c.peek = '>' then return (none, suffix, c.next)
    else
      fail (some (.parsing "a tag", start))
        (.note s!"expected '>' but found {quotedChar c.peek}") c.mark
  else if isLineEndOrBlank (c.peekAt 1) then .ok (none, marks, c.next)
  else do
    let (handle, c) ← if hasSecondMark c then handle "tag" start c else pure (marks, c.next)
    let (suffix, c) ← uri v "tag" start c
    return (some handle, suffix, c)

def tag (v : Version) (c : Cursor) : Except Fault (TokenKind × Cursor) := do
  let (handle, suffix, after) ←
    if c.peekAt 1 = '!' then tagBody v c.mark ['!', '!'] c.next else tagBody v c.mark ['!'] c
  if isWordEnd after.peek then return (.tag handle suffix, after)
  else fail (some (.scanning "a tag", c.mark)) (.expected "' '" after.peek) after.mark

/-! ## Directives -/

def inDirective (start : Mark) : Option (Activity × Mark) :=
  some (.scanning "a directive", start)

def directiveName (start : Mark) (c : Cursor) : Except Fault (List Char × Cursor) :=
  let (name, after) := c.take fun ch =>
    isAlphaNumeric ch || ch = '-' || ch = '_' || ch = ':' || ch = '.'
  if name = [] || !isWordEnd after.peek then
    fail (inDirective start) (.expected "alphabetic or numeric character" after.peek) after.mark
  else .ok (name, after)

def versionNumber (start : Mark) (c : Cursor) : Except Fault (Nat × Cursor) :=
  let (digits, after) := c.take isPlainDigit
  if digits = [] then fail (inDirective start) (.expected "a digit" c.peek) c.mark
  else if Numeral.digitLimit < digits.length then
    .error (.scalar (.integer 10 digits (.tooManyDigits digits.length)))
  else .ok (decimal digits, after)

def version (start : Mark) (c : Cursor) : Except Fault (Directive × Cursor) := do
  let (major, c) ← versionNumber start c.skipSpaces
  if c.peek != '.' then fail (inDirective start) (.expected "a digit or '.'" c.peek) c.mark
  else
    let (minor, c) ← versionNumber start c.next
    if isWordEnd c.peek then return (.version major minor, c)
    else fail (inDirective start) (.expected "a digit or ' '" c.peek) c.mark

def tagDirective (v : Version) (start : Mark) (c : Cursor) :
    Except Fault (Directive × Cursor) := do
  let (handle, c) ← handle "directive" start c.skipSpaces
  if c.peek != ' ' then fail (inDirective start) (.expected "' '" c.peek) c.mark
  else
    let (expansion, c) ← uri v "directive" start c.skipSpaces
    if isWordEnd c.peek then return (.tag handle expansion, c)
    else fail (inDirective start) (.expected "' '" c.peek) c.mark

/-- A directive from its percent sign; its line must hold nothing else. -/
def directive (v : Version) (c : Cursor) : Except Fault (Directive × Cursor) := do
  let start := c.mark
  let (name, c) ← directiveName start c.next
  let (value, c) ←
    if name = "YAML".toList then version start c
    else if name = "TAG".toList then tagDirective v start c
    else pure (Directive.other, c.skipWhile fun ch => !isLineEnd ch)
  let c := c.skipSpaces.skipComment
  if isLineEnd c.peek then return (value, c.lineBreak.2)
  else fail (inDirective start) (.expected "a comment or a line break" c.peek) c.mark

end Retrace.Yaml
