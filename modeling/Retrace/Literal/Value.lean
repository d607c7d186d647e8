import Retrace.Literal.Quoted
import Retrace.Number.Numeral

/-!
# Value literals

Nothing, truth values, numbers, texts, lists, tuples and dictionaries have a
literal form. A double without a fraction is written as a whole number; the
other doubles in their shortest form. The halves of surrogate pairs in texts are
left to the view. The first leaf without a literal form, from left to right, is
the fault of the whole.
-/

namespace Retrace.Literal

inductive Fault where
  | unsupported (value : Datum)
  | tooLong
  deriving Repr

def ofInt (n : Int) : Except Fault (List Char) :=
  match Numeral.writeInteger? n with
  | some s => .ok s.toList
  | none => .error .tooLong

mutual

/-- Whether a datum can be shown: whole numbers in it are not too long. -/
def isShowable : Datum → Bool
  | .int n => (Numeral.writeInteger? n).isSome
  | .list xs | .tuple xs | .set xs => areShowable xs
  | .dict es | .orderedDict es => entriesAreShowable es
  | _ => true

def areShowable : List Datum → Bool
  | [] => true
  | x :: xs => isShowable x && areShowable xs

def entriesAreShowable : List (Datum × Datum) → Bool
  | [] => true
  | (k, v) :: es => isShowable k && isShowable v && entriesAreShowable es

end

def unsupported (value : Datum) : Fault :=
  if isShowable value then .unsupported value else .tooLong

def ofDouble (x : Double) : Except Fault (List Char) :=
  match x.toInt? with
  | some n => .ok (toString n).toList
  | none => if x.isFinite then .ok (x.text .standard) else .error (.unsupported (.double x))

/-- The text under which a dictionary key is written. -/
def keyText [Text.View] (key : Datum) : Except Fault (List Char) :=
  if isShowable key then .ok key.viewed.plain.toList else .error .tooLong

def commaSeparated (items : List (List Char)) : List Char := [',', ' '].intercalate items

mutual

def ofDatum [Text.View] : Datum → Except Fault (List Char)
  | .bool b => .ok (if b then "True" else "False").toList
  | .none => .ok "None".toList
  | .list xs => do
    let items ← ofData xs
    return '[' :: commaSeparated items ++ [']']
  | .tuple xs => do
    let items ← ofData xs
    return '(' :: commaSeparated items ++ (if items.length = 1 then [',', ')'] else [')'])
  | .text s => .ok (quote s.toList)
  | .brokenText points => .ok (quote (points.map Text.viewed))
  | .dict es | .orderedDict es => do
    let items ← ofEntries es
    return '\x7b' :: [','].intercalate items ++ ['\x7d']
  | .int n => ofInt n
  | .double x => ofDouble x
  | value => .error (Literal.unsupported value)

def ofData [Text.View] : List Datum → Except Fault (List (List Char))
  | [] => .ok []
  | x :: xs => do
    let item ← ofDatum x
    let items ← ofData xs
    return item :: items

def ofEntries [Text.View] : List (Datum × Datum) → Except Fault (List (List Char))
  | [] => .ok []
  | (key, x) :: es => do
    let name ← keyText key
    let item ← ofDatum x
    let items ← ofEntries es
    return (quote name ++ ':' :: item) :: items

end

@[simp] theorem ofDatum_text [Text.View] (s : String) :
    ofDatum (.text s) = .ok (quote s.toList) := rfl

end Retrace.Literal
