import Retrace.Calendar
import Retrace.Number.Double
import Retrace.Text.Surrogate

/-!
# Data of unknown shape

What a recording, a settings file or a caller may contain before anything has
been checked. A dictionary is a list of entries in the order of their first
appearance; numbers and truth values of one value are one key.

Collections that share parts or contain themselves are a knot: a list of parts
in which links stand for parts, by their numbers. A view opens a knot one level
deep, so whoever takes data apart sees a collection like any other.
-/

namespace Retrace

inductive Datum where
  | none
  | bool (value : Bool)
  | int (value : Int)
  | double (value : Double)
  | text (value : String)
  /-- A text that holds halves of surrogate pairs, as its code points. -/
  | brokenText (points : List Nat)
  | list (items : List Datum)
  | tuple (items : List Datum)
  | dict (entries : List (Datum × Datum))
  | orderedDict (entries : List (Datum × Datum))
  | bytes (value : List UInt8)
  | set (items : List Datum)
  | complex (re im : Double)
  | ellipsis
  | date (value : Calendar.Date)
  | moment (value : Calendar.Moment)
  /-- Of a kind that nothing is done with but to name it and to show it. -/
  | object (kind form : String)
  /-- The part with a number, of several that may contain each other. -/
  | knot (parts : List Datum) (number : Nat)
  /-- Stands for a part of the knot around it. -/
  | link (number : Nat)
  deriving Repr, Inhabited

namespace Datum

/-! ## Collections -/

/-- Puts a knot in the place of a link. -/
def follow (parts : List Datum) : Datum → Datum
  | .link number => .knot parts number
  | d => d

/-- An item of a part; a tuple is no part of its own. -/
def followItem (parts : List Datum) : Datum → Datum
  | .tuple items => .tuple (items.map (follow parts))
  | d => follow parts d

/-- A part with its links followed. -/
def followAll (parts : List Datum) : Datum → Datum
  | .list items => .list (items.map (followItem parts))
  | .dict entries => .dict (entries.map fun e => (e.1, follow parts e.2))
  | .orderedDict entries => .orderedDict (entries.map fun e => (e.1, follow parts e.2))
  | d => d

/-- A knot as the collection that it is. -/
def view : Datum → Datum
  | .knot parts number => followAll parts (parts.getD number .none)
  | d => d

/-- The entries of a dictionary of either kind. -/
def entries? (d : Datum) : Option (List (Datum × Datum)) :=
  match d.view with
  | .dict entries | .orderedDict entries => some entries
  | _ => Option.none

/-- The items of what has items in order. -/
def items? (d : Datum) : Option (List Datum) :=
  match d.view with
  | .list items | .tuple items | .set items => some items
  | _ => Option.none

/-! ## Kinds -/

/-- The name of a datum's kind, as messages give it. -/
def kindName (d : Datum) : String :=
  match d.view with
  | .none => "NoneType"
  | .bool _ => "bool"
  | .int _ => "int"
  | .double _ => "float"
  | .text _ | .brokenText _ => "str"
  | .list _ => "list"
  | .tuple _ => "tuple"
  | .dict _ => "dict"
  | .orderedDict _ => "ordereddict"
  | .bytes _ => "bytes"
  | .set _ => "set"
  | .complex .. => "complex"
  | .ellipsis => "ellipsis"
  | .date _ => "date"
  | .moment _ => "datetime"
  | .object kind _ => kind
  | .knot .. | .link _ => ""

/-- The full name of a datum's kind, where messages ask for it. -/
def typeName : Datum → String
  | .date _ => "datetime.date"
  | .moment _ => "datetime.datetime"
  | d => d.kindName

def isNone : Datum → Bool
  | .none => true
  | _ => false

/-- Empty, zero and false data count as absent where a datum is used as a condition. -/
def isTruthy (d : Datum) : Bool :=
  match d.view with
  | .none => false
  | .bool b => b
  | .int n => n != 0
  | .double x => !x.sameValue (.zero false)
  | .text s => s != ""
  | .list xs | .tuple xs | .set xs => !xs.isEmpty
  | .dict es | .orderedDict es => !es.isEmpty
  | .bytes bs => !bs.isEmpty
  | .complex x y => !(x.sameValue (.zero false) && y.sameValue (.zero false))
  | _ => true

def text? : Datum → Option String
  | .text s => some s
  | _ => Option.none

@[simp] theorem text?_text (s : String) : (Datum.text s).text? = some s := rfl

/-- The text of code points. -/
def ofPoints (points : List Nat) : Datum :=
  if points.any Text.isHalf then .brokenText points
  else .text (String.ofList (points.map Char.ofNat))

/-- The code points of a text. -/
def points? : Datum → Option (List Nat)
  | .text s => some (Text.pointsOf s.toList)
  | .brokenText points => some points
  | _ => Option.none

def isText (d : Datum) : Bool := d.points?.isSome

def isBroken : Datum → Bool
  | .brokenText _ => true
  | _ => false

/-- A text as a view shows it, and any other datum as it is. -/
def viewed [Text.View] : Datum → Datum
  | .brokenText points => .text (String.ofList (points.map Text.viewed))
  | d => d

@[simp] theorem isText_text (s : String) : (Datum.text s).isText = true := rfl

theorem isText_ofPoints (points : List Nat) : (ofPoints points).isText = true := by
  unfold ofPoints
  split <;> rfl

@[simp] theorem viewed_text [Text.View] (s : String) : (Datum.text s).viewed = .text s := rfl

/-- The whole number that a number has as its value. -/
def wholeValue? : Datum → Option Int
  | .bool b => some b.toNat
  | .int n => some n
  | .double x => x.toInt?
  | .complex re im => if im.sameValue (.zero false) then re.toInt? else Option.none
  | _ => Option.none

mutual

/-- Equality of dictionary keys. -/
def same : Datum → Datum → Bool
  | .double x, .double y => x.sameValue y
  | .text s, .text t => s == t
  | .brokenText s, .brokenText t => s == t
  | .none, .none => true
  | .tuple xs, .tuple ys => sameAll xs ys
  | .bytes s, .bytes t => s == t
  | .ellipsis, .ellipsis => true
  | .date d, .date e => d == e
  | .moment d, .moment e => d.same e
  | .complex a b, .complex c d => a.sameValue c && b.sameValue d
  | .complex a b, .double x => a.sameValue x && b.sameValue (.zero false)
  | .double x, .complex a b => a.sameValue x && b.sameValue (.zero false)
  | x, y =>
    match x.wholeValue?, y.wholeValue? with
    | some m, some n => m == n
    | _, _ => false

def sameAll : List Datum → List Datum → Bool
  | [], [] => true
  | x :: xs, y :: ys => x.same y && sameAll xs ys
  | _, _ => false

end

/-- Sets a key's value. A key that is there keeps its place and its spelling. -/
def put (key value : Datum) : List (Datum × Datum) → List (Datum × Datum)
  | [] => [(key, value)]
  | (k, v) :: rest => if k.same key then (k, value) :: rest else (k, v) :: put key value rest

def ofEntries (entries : List (Datum × Datum)) : Datum :=
  .dict (entries.foldl (fun es e => put e.1 e.2 es) [])

/-- The value under a name. -/
def field? (name : String) (d : Datum) : Option Datum :=
  d.entries?.bind fun entries => (entries.find? fun e => e.1.text? == some name).map (·.2)

end Datum

end Retrace
