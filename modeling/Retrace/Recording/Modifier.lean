import Retrace.Datum.Show

/-!
# Modifier keys

A recorder writes the keys held down as a bit mask or as a list of names. Both
forms are brought into one: the keys in their fixed order, each at most once.
Bits are read in two's complement, so every whole number is a mask. Names are
read from anything that has items.
-/

namespace Retrace

inductive Modifier where
  | altKey
  | controlKey
  | metaKey
  | shiftKey
  deriving DecidableEq, Repr

namespace Modifier

/-- All keys, in the order in which they are written. -/
def all : List Modifier := [altKey, controlKey, metaKey, shiftKey]

def name : Modifier → String
  | altKey => "Alt"
  | controlKey => "Control"
  | metaKey => "Meta"
  | shiftKey => "Shift"

def bit : Modifier → Nat
  | altKey => 1
  | controlKey => 2
  | metaKey => 4
  | shiftKey => 8

def ofName? (s : String) : Option Modifier := all.find? fun m => m.name == s

inductive Fault where
  | unknown (names : List String)
  | notIterable (kind : String)
  | notText (position : Nat) (kind : String)
  | notAContainer
  deriving DecidableEq, Repr

def inMask (mask : Int) (m : Modifier) : Bool := mask / m.bit % 2 = 1

def ofMask (mask : Int) : List Modifier := all.filter (inMask mask)

/-- The place and kind of the first item that is no text. -/
def firstNonText (position : Nat) : List Datum → Option (Nat × String)
  | [] => none
  | .text _ :: rest | .brokenText _ :: rest => firstNonText (position + 1) rest
  | item :: _ => some (position, item.typeName)

def isKnown : Datum → Bool
  | .text s => (ofName? s).isSome
  | _ => false

def ofItems (items : List Datum) : Except Fault (List Modifier) :=
  let unknown := items.filter fun item => !isKnown item
  match firstNonText 0 unknown with
  | some (position, kind) => .error (.notText position kind)
  | none =>
    if unknown.isEmpty then
      .ok (all.filter fun m => items.any fun item => item.text? == some m.name)
    else .error (.unknown (unknown.map Datum.lossy))

def ofDatum (d : Datum) : Except Fault (List Modifier) :=
  match d.view with
  | .bool b => .ok (ofMask b.toNat)
  | .int n => .ok (ofMask n)
  | .list items | .tuple items | .set items => ofItems items
  | .text s => ofItems (s.toList.map fun c => .text (String.ofList [c]))
  | .brokenText points => ofItems (points.map fun n => .ofPoints [n])
  | .dict entries | .orderedDict entries => ofItems (entries.map (·.1))
  | .bytes [] => .error .notAContainer
  | .bytes bs => ofItems (bs.map fun b => .int b.toNat)
  | d => .error (.notIterable d.typeName)

theorem name_injective {m n : Modifier} (h : m.name = n.name) : m = n := by
  cases m <;> cases n <;> first | rfl | exact absurd h (by decide)

theorem mem_ofMask {mask : Int} {m : Modifier} : m ∈ ofMask mask ↔ inMask mask m = true := by
  have : m ∈ all := by cases m <;> decide
  simp [ofMask, this]

def Fault.message : Fault → String
  | .unknown names => "未知の修飾キーです: " ++ ", ".intercalate names
  | .notIterable kind => s!"'{kind}' object is not iterable"
  | .notText position kind => s!"sequence item {position}: expected str instance, {kind} found"
  | .notAContainer => "a bytes-like object is required, not 'str'"

end Modifier

end Retrace
