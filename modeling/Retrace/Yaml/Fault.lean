import Retrace.Calendar
import Retrace.Datum.Show
import Retrace.Json.Fault
import Retrace.Yaml.Mark

/-!
# What is wrong with a YAML text

A complaint tells what was being done, what went wrong, and where both happened.
A text with characters that do not print is refused as a whole. Scalars that do
not fit their type, keys that cannot be looked up or come again in an ordered
mapping, and versions that do not exist are faults of their own.
-/

namespace Retrace.Yaml

/-- What was being done. -/
inductive Activity where
  | scanning (what : String)
  | parsing (what : String)
  | constructing (what : String)
  | note (text : String)
  deriving DecidableEq, Repr

def Activity.text : Activity → String
  | scanning what => "while scanning " ++ what
  | parsing what => "while parsing " ++ what
  | constructing what => "while constructing " ++ what
  | note text => text

/-- What went wrong. -/
inductive Problem where
  | cannotStart (found : Char)
  | noColon
  | notAllowedHere (what : String)
  | expected (what : String) (found : Char)
  | expectedToken (what found : String)
  | unknownEscape (found : Char)
  | endOfStream
  | documentSeparator
  | zeroIndentation
  | note (text : String)
  deriving DecidableEq, Repr

def quotedChar (c : Char) : String := String.ofList (Datum.showText [c])

def Problem.text : Problem → String
  | cannotStart found => s!"found character {quotedChar found} that cannot start any token"
  | noColon => "could not find expected ':'"
  | notAllowedHere what => what ++ " are not allowed here"
  | expected what found => s!"expected {what}, but found {quotedChar found}"
  | expectedToken what found => s!"expected {what} '{found}'"
  | unknownEscape found => "found unknown escape character " ++ quotedChar found
  | endOfStream => "found unexpected end of stream"
  | documentSeparator => "found unexpected document separator"
  | zeroIndentation => "expected indentation indicator in the range 1-9, but found 0"
  | note text => text

structure Complaint where
  activity : Option (Activity × Mark)
  problem : Option (Problem × Mark)
  deriving Repr

/-- A scalar whose text does not fit the type it has. -/
inductive ScalarFault where
  | integer (base : Nat) (digits : List Char) (fault : Numeral.Fault)
  | decimal (text : List Char)
  | tooManyExponents
  | overflow
  | boolean (text : List Char)
  | noText
  | codePoint
  | codePointTooWide
  | calendar (fault : Calendar.Fault)
  deriving Repr

inductive Fault where
  | unprintable (found : Char) (index : Nat)
  | complaint (complaint : Complaint)
  | scalar (fault : ScalarFault)
  | unhashable (kind : String)
  | repeatedKey
  | unknownVersion (minor : Nat)
  deriving Repr

/-- The first mark is left out if it is the place of the problem as well. -/
def Complaint.message (source : List Char) (c : Complaint) : String :=
  let first :=
    match c.activity with
    | none => []
    | some (activity, mark) =>
      activity.text ::
        if (c.problem.map fun p => (p.2.line, p.2.column)) = some (mark.line, mark.column) then []
        else [mark.text source]
  let second :=
    match c.problem with
    | none => []
    | some (problem, mark) => [problem.text, mark.text source]
  "\n".intercalate (first ++ second)

def ScalarFault.message : ScalarFault → String
  | integer _ _ (.tooManyDigits count) => Json.digitsMessage count
  | integer base digits .malformed =>
    s!"invalid literal for int() with base {base}: " ++ String.ofList (Datum.showText digits)
  | decimal text => "could not convert string to float: " ++ String.ofList (Datum.showText text)
  | tooManyExponents => "too many values to unpack (expected 2)"
  | overflow => "int too large to convert to float"
  | boolean text => String.ofList (Datum.showText text)
  | noText => "string index out of range"
  | codePoint => "chr() arg not in range(0x110000)"
  | codePointTooWide => "Python int too large to convert to C int"
  | calendar fault => fault.message

def Fault.message (source : List Char) : Fault → String
  | .unprintable found index =>
    "unacceptable character #x" ++ String.ofList (Datum.hexDigits 4 found.toNat)
      ++ s!": special characters are not allowed\n  in \x22<unicode string>\x22, position {index}"
  | .complaint c => c.message source
  | .scalar fault => fault.message
  | .unhashable kind => s!"unhashable type: '{kind}'"
  | .repeatedKey => ""
  | .unknownVersion minor => s!"version minor part can only be 2 or 1, got (1, {minor})"

/-- The faults of the text itself, not of what a scalar means. -/
def Fault.isComplaint : Fault → Bool
  | .unprintable .. | .complaint _ => true
  | _ => false

/-- Times past the last year, and numbers without digits or of too many, are not expected;
the other scalars that do not fit are. -/
def ScalarFault.isExpected : ScalarFault → Bool
  | noText | overflow | codePointTooWide | calendar .outOfRange => false
  | _ => true

def Fault.isExpected : Fault → Bool
  | .unprintable .. | .complaint _ => true
  | .scalar fault => fault.isExpected
  | .unhashable _ | .repeatedKey | .unknownVersion _ => false

def fail {α : Type} (activity : Option (Activity × Mark)) (problem : Problem) (mark : Mark) :
    Except Fault α :=
  .error (.complaint ⟨activity, some (problem, mark)⟩)

end Retrace.Yaml
