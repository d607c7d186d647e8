import Retrace.Yaml.BlockScalar
import Retrace.Yaml.FlowScalar
import Retrace.Yaml.PlainScalar
import Retrace.Yaml.Property

/-!
# From text to tokens

In block context indentation opens and closes collections. A key is seen only at
the colon behind it, so the places where one may have begun are remembered, one
for each depth of brackets, and the tokens for the key are put in there later. A
place is given up at the end of its line and after 1024 characters. The version
that a directive names counts from the beginning of its document on.

Tokens before a place that is still open are final. When the text goes wrong,
only these are handed on, and after them the fault.
-/

namespace Retrace.Yaml

/-- A place where a key may have begun. A key that must be one has no choice. -/
structure KeyPlace where
  number : Nat
  isRequired : Bool
  mark : Mark

structure Lexer where
  cursor : Cursor
  /-- The tokens so far, the last one first. -/
  tokens : List Token := []
  /-- The number of the tokens. -/
  count : Nat := 0
  indent : Int := -1
  indents : List Int := []
  /-- The brackets that are open, the innermost first. -/
  brackets : List Char := []
  allowsKey : Bool := true
  /-- By the depth of brackets. -/
  keys : List (Nat × KeyPlace) := []
  version : Version := .current
  /-- Of the document to come. -/
  nextVersion : Version := .current
  isDone : Bool := false

namespace Lexer

def depth (l : Lexer) : Nat := l.brackets.length

def isBlock (l : Lexer) : Bool := l.brackets = []

def push (l : Lexer) (kind : TokenKind) (start stop : Mark) : Lexer :=
  { l with tokens := ⟨kind, start, stop⟩ :: l.tokens, count := l.count + 1 }

/-- Puts a token in front of the one with the given number. -/
def insertAt (l : Lexer) (number : Nat) (kind : TokenKind) (mark : Mark) : Lexer :=
  { l with
    tokens := l.tokens.insertIdx (l.count - number) ⟨kind, mark, mark⟩
    count := l.count + 1 }

/-- Pushes a token of some characters and moves behind it. -/
def pushChars (l : Lexer) (kind : TokenKind) (count : Nat) : Lexer :=
  let after := l.cursor.skip count
  { l.push kind l.cursor.mark after.mark with cursor := after }

/-- The number of the first token that is not final. -/
def frontier (l : Lexer) : Nat :=
  l.keys.foldl (fun n k => min n k.2.number) l.count

def noColon {α : Type} (l : Lexer) (key : KeyPlace) : Except Fault α :=
  fail (some (.scanning "a simple key", key.mark)) .noColon l.cursor.mark

def isStale (l : Lexer) (key : KeyPlace) : Bool :=
  key.mark.line ≠ l.cursor.mark.line || 1024 < l.cursor.mark.index - key.mark.index

def dropStale (l : Lexer) : Except Fault Lexer :=
  match (l.keys.find? fun k => l.isStale k.2 && k.2.isRequired) with
  | some k => l.noColon k.2
  | none => .ok { l with keys := l.keys.filter fun k => !l.isStale k.2 }

/-- Gives up the place at the present depth. -/
def dropKey (l : Lexer) : Except Fault Lexer :=
  match l.keys.lookup l.depth with
  | some key =>
    if key.isRequired then l.noColon key
    else .ok { l with keys := l.keys.filter fun k => k.1 ≠ l.depth }
  | none => .ok l

/-- Remembers this place, if a key may begin here. -/
def saveKey (l : Lexer) : Except Fault Lexer :=
  if l.allowsKey then do
    let required := l.isBlock && l.indent = l.cursor.column
    let l ← l.dropKey
    return { l with keys := l.keys ++ [(l.depth, ⟨l.count, required, l.cursor.mark⟩)] }
  else .ok l

def unwindFrom (column : Int) : Nat → Lexer → Lexer
  | 0, l => l
  | fuel + 1, l =>
    if l.isBlock && column < l.indent then
      let mark := l.cursor.mark
      unwindFrom column fuel
        { l.push .blockEnd mark mark with
          indent := l.indents.headD (-1)
          indents := l.indents.tail }
    else l

/-- Ends the block collections that are indented further than a column. -/
def unwind (l : Lexer) (column : Int) : Lexer := unwindFrom column (l.indents.length + 1) l

/-- Begins a collection at a column, if it is indented further than the present one. -/
def addIndent (l : Lexer) (column : Int) : Option Lexer :=
  if l.indent < column then some { l with indents := l.indent :: l.indents, indent := column }
  else none

/-- Begins a collection here, with a token. -/
def openBlock (l : Lexer) (kind : TokenKind) : Lexer :=
  match l.addIndent l.cursor.column with
  | some l => l.push kind l.cursor.mark l.cursor.mark
  | none => l

def withoutKeys (l : Lexer) : Lexer := { l with allowsKey := false }

/-! ## One token after the other -/

def fetchEnd (l : Lexer) : Except Fault Lexer := do
  let l ← (l.unwind (-1)).dropKey
  let l := { l with allowsKey := false, keys := [], isDone := true }
  return l.push .streamEnd l.cursor.mark l.cursor.mark

/-- The version of the document that a directive stands before. -/
def versionAfter (v : Version) : Directive → Version
  | .version _ minor => (Version.ofMinor? minor).getD v
  | _ => v

def fetchDirective (l : Lexer) : Except Fault Lexer := do
  let l ← (l.unwind (-1)).dropKey
  let (value, after) ← directive l.version l.cursor
  return { (l.withoutKeys.push (.directive value) l.cursor.mark after.mark) with
    cursor := after, nextVersion := versionAfter l.nextVersion value }

def fetchSeparator (l : Lexer) (kind : TokenKind) : Except Fault Lexer := do
  let l ← (l.unwind (-1)).dropKey
  return l.withoutKeys.pushChars kind 3

def fetchDocumentStart (l : Lexer) : Except Fault Lexer := do
  let l ← l.fetchSeparator .documentStart
  return { l with version := l.nextVersion, nextVersion := .current }

def fetchFlowStart (l : Lexer) (kind : TokenKind) : Except Fault Lexer := do
  let l ← l.saveKey
  let l := { l with brackets := l.cursor.peek :: l.brackets, allowsKey := true }
  return l.pushChars kind 1

def fetchFlowEnd (l : Lexer) (kind : TokenKind) : Except Fault Lexer := do
  let l ← l.dropKey
  return { l with brackets := l.brackets.tail, allowsKey := false }.pushChars kind 1

def fetchFlowEntry (l : Lexer) : Except Fault Lexer := do
  let l ← { l with allowsKey := true }.dropKey
  return l.pushChars .flowEntry 1

/-- In block context an entry, a key or a value without a key begins only where a
key could. -/
def requireKey (l : Lexer) (what : String) : Except Fault Unit :=
  if l.isBlock && !l.allowsKey then fail none (.notAllowedHere what) l.cursor.mark else .ok ()

def fetchBlockEntry (l : Lexer) : Except Fault Lexer := do
  l.requireKey "sequence entries"
  let l := if l.isBlock then l.openBlock .blockSequenceStart else l
  let l ← { l with allowsKey := true }.dropKey
  return l.pushChars .blockEntry 1

def fetchKey (l : Lexer) : Except Fault Lexer := do
  l.requireKey "mapping keys"
  let l := if l.isBlock then l.openBlock .blockMappingStart else l
  let l ← { l with allowsKey := l.isBlock }.dropKey
  return l.pushChars .key 1

/-- The key that begins at a remembered place. -/
def completeKey (l : Lexer) (key : KeyPlace) : Lexer :=
  let l := { l with keys := l.keys.filter fun k => k.1 ≠ l.depth, allowsKey := false }
  let l := l.insertAt key.number .key key.mark
  if l.isBlock then
    match l.addIndent key.mark.column with
    | some l => l.insertAt key.number .blockMappingStart key.mark
    | none => l
  else l

def fetchValue (l : Lexer) : Except Fault Lexer := do
  match l.keys.lookup l.depth with
  | some key => return (l.completeKey key).pushChars .value 1
  | none =>
    l.requireKey "mapping values"
    let l := if l.isBlock then l.openBlock .blockMappingStart else l
    let l ← { l with allowsKey := l.isBlock }.dropKey
    return l.pushChars .value 1

/-- A token that may itself be a key. -/
def fetchContent (l : Lexer) (scan : Cursor → Except Fault (TokenKind × Mark × Cursor)) :
    Except Fault Lexer := do
  let l ← l.saveKey
  let (kind, stop, after) ← scan l.cursor
  return { (l.withoutKeys.push kind l.cursor.mark stop) with cursor := after }

def fetchAnchor (l : Lexer) (what : String) (kind : List Char → TokenKind) :
    Except Fault Lexer :=
  l.fetchContent fun c => do
    let (name, after) ← anchorName what c
    return (kind name, after.mark, after)

def fetchTag (l : Lexer) : Except Fault Lexer :=
  l.fetchContent fun c => do
    let (kind, after) ← tag l.version c
    return (kind, after.mark, after)

def fetchQuoted (l : Lexer) : Except Fault Lexer :=
  l.fetchContent fun c => do
    let (points, after) ← quotedScalar c
    return (.scalar points false, after.mark, after)

def fetchBlockScalar (l : Lexer) : Except Fault Lexer := do
  let l ← { l with allowsKey := true }.dropKey
  let (text, stop, after) ← blockScalar l.indent l.cursor
  return { (l.push (.scalar (Text.pointsOf text) false) l.cursor.mark stop) with cursor := after }

def fetchPlain (l : Lexer) : Except Fault Lexer := do
  let l ← l.saveKey
  let p := plainScalar l.version (!l.isBlock) l.indent l.cursor
  let l := l.push (.scalar (Text.pointsOf p.text) true) l.cursor.mark p.stop
  return { l with cursor := p.cursor, allowsKey := p.broken }

/-! ## What begins here -/

/-- A blank stands behind this character. -/
def blankFollows (l : Lexer) : Bool := isLineEndOrBlank (l.cursor.peekAt 1)

/-- The last token ends a key and is not final. -/
def lastIsValue (l : Lexer) : Bool :=
  l.frontier < l.count && l.tokens.head?.map Token.kind == some .value

/-- The colon here ends a key. Inside brackets it need not be followed by a blank, which
the current version confines to braces. -/
def startsValue (l : Lexer) : Bool :=
  match l.brackets with
  | [] => l.blankFollows
  | bracket :: _ =>
    l.version = .early || l.blankFollows || (bracket != '[' && !l.lastIsValue)

/-- The characters with which no plain scalar begins, unless a rule says so. -/
def indicators : List Char :=
  "\x00 \t\r\n\x85\u2028\u2029-?:,[]\x7b\x7d#&*!|>'\x22%@\x60".toList

def startsPlain (l : Lexer) : Bool :=
  let c := l.cursor.peek
  let next := l.cursor.peekAt 1
  !indicators.contains c
    || (l.version = .current && c = ':' && !l.isBlock && next != ' ' && next != '\t')
    || (!l.blankFollows && (c = '-' || (l.isBlock && (c = '?' || c = ':'))))

def fetchHere (l : Lexer) : Except Fault Lexer :=
  let c := l.cursor.peek
  let atLineStart := l.cursor.column = 0
  if l.cursor.rest = [] then l.fetchEnd
  else if c = '%' && atLineStart then l.fetchDirective
  else if atLineStart && l.cursor.isTriple '-' then l.fetchDocumentStart
  else if atLineStart && l.cursor.isTriple '.' then l.fetchSeparator .documentEnd
  else if c = '[' then l.fetchFlowStart .flowSequenceStart
  else if c = '\x7b' then l.fetchFlowStart .flowMappingStart
  else if c = ']' then l.fetchFlowEnd .flowSequenceEnd
  else if c = '\x7d' then l.fetchFlowEnd .flowMappingEnd
  else if c = ',' then l.fetchFlowEntry
  else if c = '-' && l.blankFollows then l.fetchBlockEntry
  else if c = '?' && (!l.isBlock || l.blankFollows) then l.fetchKey
  else if c = ':' && l.startsValue then l.fetchValue
  else if c = '*' then l.fetchAnchor "an alias" .reference
  else if c = '&' then l.fetchAnchor "an anchor" .anchor
  else if c = '!' then l.fetchTag
  else if (c = '|' || c = '>') && l.isBlock then l.fetchBlockScalar
  else if c = '\'' || c = '\x22' then l.fetchQuoted
  else if l.startsPlain then l.fetchPlain
  else
    .error (.complaint
      ⟨some (.scanning "for the next token", l.cursor.mark), some (.cannotStart c, l.cursor.mark)⟩)

/-- The next tokens. A place whose line has ended is given up before them and after. -/
def fetch (l : Lexer) : Except Fault Lexer := do
  let (broken, cursor) := l.cursor.toToken (!l.isBlock) (l.cursor.size + 1)
  let l := { l with cursor, allowsKey := l.allowsKey || (broken && l.isBlock) }
  let l ← l.dropStale
  let l ← (l.unwind l.cursor.column).fetchHere
  l.dropStale

/-- All tokens that are final, and the fault that ended them, if there was one. -/
def run : Nat → Lexer → List Token × Option Fault
  | 0, l => (l.tokens.reverse, none)
  | fuel + 1, l =>
    if l.isDone then (l.tokens.reverse, none)
    else
      match l.fetch with
      | .ok l => run fuel l
      | .error fault => (l.tokens.reverse.take l.frontier, some fault)

end Lexer

/-- Characters that may stand in a text. -/
def isPermitted (c : Char) : Bool :=
  c = '\t' || c = '\n' || c = '\r' || (' ' ≤ c && c ≤ '~') || c = '\x85'
    || ('\xa0' ≤ c && c != '\ufffe' && c != '\uffff')

/-- The place of the first character that may not. -/
def firstUnprintable (index : Nat) : List Char → Option (Char × Nat)
  | [] => none
  | c :: rest => if isPermitted c then firstUnprintable (index + 1) rest else some (c, index)

/-- The tokens of a text. A byte order mark at the beginning is passed over. -/
def tokensOf (source : List Char) : List Token × Option Fault :=
  match firstUnprintable 0 source with
  | some (c, index) => ([], some (.unprintable c index))
  | none =>
    let cursor := Cursor.ofText source
    let cursor := if cursor.peek = '\ufeff' then cursor.next else cursor
    Lexer.run (source.length + 2) { cursor }

end Retrace.Yaml
