import Retrace.Json.Reader
import Retrace.Literal.Quoted

/-!
# Values in selectors

A value is a pattern between slashes, a quoted text, or anything else taken as
plain text. A quoted text is decoded as JSON, halves of surrogate pairs being
left to the view, and may end in a flag, which asks for a match of any case or of
the exact text. Of a pattern's flags only the one for any case has an effect.
-/

namespace Retrace.Locator

inductive Matcher where
  | text (value : List Char) (exact : Bool)
  | pattern (source : List Char) (ignoreCase : Bool)
  deriving DecidableEq, Repr

/-- The raw body of a quoted text whose opening mark has been read, and what
follows the closing mark. A backslash pairs with any character but a line feed. -/
def takeQuoted : List Char → Option (List Char × List Char)
  | [] => none
  | c :: rest =>
    if c = '\x22' then some ([], rest)
    else if c = '\\' then
      match rest with
      | [] => none
      | d :: rest =>
        if d = '\n' then none
        else (takeQuoted rest).map fun p => (c :: d :: p.1, p.2)
    else (takeQuoted rest).map fun p => (c :: p.1, p.2)

/-- A flag after a quoted text: the rest, and whether the flag asks for the exact text. -/
def takeFlag : List Char → Bool × List Char
  | 's' :: rest => (true, rest)
  | 'i' :: rest => (false, rest)
  | s => (false, s)

/-- The end of a value; a final line feed does not count. -/
def atEnd (s : List Char) : Bool := s = [] || s = ['\n']

/-- The raw body of a quoted value and whether it asks for the exact text. -/
def quotedBody? : List Char → Option (List Char × Bool)
  | '\x22' :: rest =>
    match takeQuoted rest with
    | some (body, rest) =>
      let (exact, rest) := takeFlag rest
      if atEnd rest then some (body, exact) else none
    | none => none
  | _ => none

def isPatternFlag (c : Char) : Bool :=
  c = 'd' || c = 'g' || c = 'i' || c = 'm' || c = 's' || c = 'u' || c = 'y'

/-- What stands before and after the last slash. -/
def splitAtLastSlash : List Char → Option (List Char × List Char)
  | [] => none
  | c :: rest =>
    match splitAtLastSlash rest with
    | some (before, after) => some (c :: before, after)
    | none => if c = '/' then some ([], rest) else none

def dropFinalBreak (s : List Char) : List Char :=
  if s.getLast? = some '\n' then s.dropLast else s

/-- The body of a pattern between slashes, and its flags. -/
def patternParts? : List Char → Option (List Char × List Char)
  | '/' :: rest =>
    match splitAtLastSlash rest with
    | some (body, flags) =>
      let flags := dropFinalBreak flags
      if flags.all isPatternFlag then some (body, flags) else none
    | none => none
  | _ => none

/-- Takes away the backslash before each slash. -/
def unescapeSlashes : List Char → List Char
  | '\\' :: '/' :: rest => '/' :: unescapeSlashes rest
  | c :: rest => c :: unescapeSlashes rest
  | [] => []

/-- A pattern's source between quotation marks: there a slash needs no backslash, but
a mark does. -/
def pattern? (s : List Char) : Option Matcher :=
  (patternParts? s).map fun p =>
    .pattern (Literal.escapeMarks (unescapeSlashes p.1)) (p.2.contains 'i')

/-- A quoted text decoded, or the value as it is. -/
def readPlain [Text.View] (s : List Char) : Except Json.Fault (List Char × Bool) :=
  match quotedBody? s with
  | none => .ok (s, false)
  | some (body, exact) => do
    let value ← Json.readQuoted body
    return ((value.viewed.text?.getD "").toList, exact)

def readMatcher [Text.View] (s : List Char) : Except Json.Fault Matcher :=
  match pattern? s with
  | some m => .ok m
  | none => do
    let (value, exact) ← readPlain s
    return .text value exact

/-- The expression for a matcher. -/
def Matcher.write : Matcher → List Char
  | .text value _ => Literal.quote value
  | .pattern source ignoreCase =>
    "re.compile(r\x22".toList ++ source ++ '\x22'
      :: (if ignoreCase then ", re.IGNORECASE" else "").toList ++ [')']

theorem Matcher.write_pattern (source : List Char) (ignoreCase : Bool) :
    (pattern source ignoreCase).write
      = "re.compile(r\x22".toList ++ source ++ '\x22'
        :: (if ignoreCase then ", re.IGNORECASE" else "").toList ++ [')'] := rfl

def Matcher.isExact : Matcher → Bool
  | .text _ exact => exact
  | .pattern .. => false

end Retrace.Locator
