import Retrace.Literal.Quoted
import Retrace.Number.Numeral

/-!
# Writing JSON

Nothing, truth values, numbers, texts, lists, tuples and dictionaries have a JSON
text; a tuple is written like a list. Names are texts, and other keys without
parts become one. What is no number and the infinities are written by the words
that the reader knows.
-/

namespace Retrace.Json

inductive WriteFault where
  | unwritable (kind : String)
  | notAName (kind : String)
  | tooLong
  deriving DecidableEq, Repr

def writeDouble (x : Double) : List Char :=
  match x.view with
  | .nan => "NaN".toList
  | .infinite negative => (if negative then "-Infinity" else "Infinity").toList
  | .finite .. => x.text .standard

def writeInteger (n : Int) : Except WriteFault (List Char) :=
  match Numeral.writeInteger? n with
  | some s => .ok s.toList
  | none => .error .tooLong

def writeBoolean (b : Bool) : List Char := (if b then "true" else "false").toList

/-- The text of a key. -/
def nameOf [Text.View] : Datum → Except WriteFault (List Char)
  | .text s => .ok s.toList
  | .brokenText points => .ok (points.map Text.viewed)
  | .none => .ok "null".toList
  | .bool b => .ok (writeBoolean b)
  | .int n => writeInteger n
  | .double x => .ok (writeDouble x)
  | key => .error (.notAName key.typeName)

def separated (items : List (List Char)) : List Char := [',', ' '].intercalate items

mutual

def write [Text.View] : Datum → Except WriteFault (List Char)
  | .text s => .ok (Literal.quote s.toList)
  | .brokenText points => .ok (Literal.quote (points.map Text.viewed))
  | .none => .ok "null".toList
  | .bool b => .ok (writeBoolean b)
  | .int n => writeInteger n
  | .double x => .ok (writeDouble x)
  | .list items | .tuple items => do
    return '[' :: separated (← writeAll items) ++ [']']
  | .dict entries | .orderedDict entries => do
    return '\x7b' :: separated (← writeProperties entries) ++ ['\x7d']
  | d => .error (.unwritable d.kindName)

def writeAll [Text.View] : List Datum → Except WriteFault (List (List Char))
  | [] => .ok []
  | d :: rest => do
    let item ← write d
    return item :: (← writeAll rest)

def writeProperties [Text.View] : List (Datum × Datum) → Except WriteFault (List (List Char))
  | [] => .ok []
  | (key, d) :: rest => do
    let name ← nameOf key
    let value ← write d
    return (Literal.quote name ++ ':' :: ' ' :: value) :: (← writeProperties rest)

end

@[simp] theorem write_text [Text.View] (s : String) :
    write (.text s) = .ok (Literal.quote s.toList) := by
  simp [write]

end Retrace.Json
