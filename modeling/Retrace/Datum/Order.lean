import Retrace.Datum.Basic

/-!
# Order of data

Numbers are ordered by value, texts by code point, bytes and tuples from left
to right; between other data there is no order. Sorting inserts each datum by
halving into the run before it, so the pair that has no order is the first one
that this search compares.
-/

namespace Retrace.Datum

/-- Two kinds of data between which there is no order. -/
structure Unordered where
  left : String
  right : String
  deriving DecidableEq, Repr

/-- A number as a quotient; infinities and what is no number have none. -/
def ratio? : Datum → Option (Int × Nat)
  | .double x =>
    match x.view with
    | .finite negative mantissa exponent =>
      let (n, d) := Double.scale mantissa 1 (-exponent)
      some (if negative then -(n : Int) else n, d)
    | _ => Option.none
  | x => x.wholeValue?.map (·, 1)

def isNumber : Datum → Bool
  | .bool _ | .int _ | .double _ => true
  | _ => false

/-- An infinity's side; what is no number has none. -/
def extreme? : Datum → Option Int
  | .double x =>
    match x.view with
    | .infinite negative => some (if negative then -1 else 1)
    | .finite .. => some 0
    | .nan => Option.none
  | _ => some 0

def numberLess (x y : Datum) : Bool :=
  match x.extreme?, y.extreme? with
  | some a, some b =>
    if a ≠ 0 || b ≠ 0 then a < b
    else
      match x.ratio?, y.ratio? with
      | some (m, c), some (n, d) => m * d < n * c
      | _, _ => false
  | _, _ => false

mutual

def less : Datum → Datum → Except Unordered Bool
  | .text s, .text t => .ok (s < t)
  | .bytes s, .bytes t => .ok (s.map UInt8.toNat < t.map UInt8.toNat)
  | .tuple xs, .tuple ys => lessAll xs ys
  | x, y =>
    if x.isNumber && y.isNumber then .ok (numberLess x y)
    else
      match x.points?, y.points? with
      | some s, some t => .ok (s < t)
      | _, _ => .error ⟨x.kindName, y.kindName⟩

/-- The first two items that differ decide. -/
def lessAll : List Datum → List Datum → Except Unordered Bool
  | [], ys => .ok (!ys.isEmpty)
  | _, [] => .ok false
  | x :: xs, y :: ys => if x.same y then lessAll xs ys else less x y

end

/-- The place of `x` in a sorted list, after the items that are not above it. -/
def place (x : Datum) (sorted : List Datum) : Nat → Nat → Nat → Except Unordered Nat
  | 0, low, _ => .ok low
  | fuel + 1, low, high =>
    if low < high then do
      let middle := (low + high) / 2
      if ← less x (sorted.getD middle .none) then place x sorted fuel low middle
      else place x sorted fuel (middle + 1) high
    else .ok low

def insertEach : List Datum → List Datum → Except Unordered (List Datum)
  | sorted, [] => .ok sorted
  | sorted, x :: rest => do
    let k ← place x sorted (sorted.length + 1) 0 sorted.length
    insertEach (sorted.take k ++ x :: sorted.drop k) rest

/-- The items that go on in the direction of the run that `last` ends. -/
def runFrom (falling : Bool) (last : Datum) :
    List Datum → Except Unordered (List Datum × List Datum)
  | [] => .ok ([], [])
  | x :: rest => do
    if (← less x last) = falling then
      let (run, rest) ← runFrom falling x rest
      return (x :: run, rest)
    else return ([], x :: rest)

def sort : List Datum → Except Unordered (List Datum)
  | x :: y :: rest => do
    let falling ← less y x
    let (run, rest) ← runFrom falling y rest
    let run := x :: y :: run
    insertEach (if falling then run.reverse else run) rest
  | xs => .ok xs

end Retrace.Datum
