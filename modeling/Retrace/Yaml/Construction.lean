import Retrace.Yaml.Document

/-!
# What is made of nodes

Every node is made into an object once, and whoever refers to the node refers to
that object. A collection is begun empty and filled later, after the collections
that were begun before it; a key has to be known at once, so a collection in a key
is filled on the spot. Where a collection that is being filled on the spot is met
inside itself, nothing stands in its place.

A list that serves as a key is a tuple of the items that it has at that moment.
-/

namespace Retrace.Yaml

/-- What stands in a collection. -/
inductive Item where
  | object (number : Nat)
  | nothing
  | tuple (items : List Item)
  deriving Repr, Inhabited

/-- What is made of a node. -/
inductive Object where
  | datum (value : Datum)
  /-- The one object that the word for it stands for; other doubles that are no numbers are
  unlike each other. -/
  | notANumber
  | list (items : List Item)
  | dict (entries : List (Item × Item))
  | orderedDict (entries : List (Item × Item))
  | set (items : List Item)
  deriving Repr

/-- Where in the construction a node is made. -/
structure Context where
  /-- The nodes that are being made. -/
  unfinished : List Nat := []
  fillsAtOnce : Bool := false

structure Construction where
  /-- The pairs and the keys of a mapping change as others are merged into it. -/
  nodes : Array Node
  version : Version
  /-- By the number of the node. -/
  objects : Array (Option Object)
  context : Context := {}
  /-- The collections that are still to be filled, the last one first. -/
  waiting : List Nat := []

abbrev Build := StateT Construction (Except Fault)

namespace Construction

def ofDocument (d : Document) : Construction where
  nodes := d.nodes
  version := d.version
  objects := Array.replicate d.nodes.size none

def node (c : Construction) (number : Nat) : Node := c.nodes.getD number default

def object? (c : Construction) (number : Nat) : Option Object := c.objects.getD number none

def wait (c : Construction) (number : Nat) : Construction :=
  { c with waiting := number :: c.waiting }

/-! ## Keys -/

def isNotANumber (c : Construction) (number : Nat) : Bool :=
  match c.object? number with
  | some .notANumber => true
  | _ => false

def datum? (c : Construction) : Item → Option Datum
  | .nothing => some .none
  | .object number =>
    match c.object? number with
    | some (.datum d) => some d
    | _ => none
  | .tuple _ => none

/-- The same object, or another one of the same value. -/
def sameObject (c : Construction) : Item → Item → Bool
  | .object m, .object n =>
    m == n || (c.isNotANumber m && c.isNotANumber n) ||
      match c.datum? (.object m), c.datum? (.object n) with
      | some d, some e => d.same e
      | _, _ => false
  | x, y =>
    match c.datum? x, c.datum? y with
    | some d, some e => d.same e
    | _, _ => false

mutual

/-- Equality of keys. -/
def same (c : Construction) : Item → Item → Bool
  | .tuple xs, .tuple ys => sameAll c xs ys
  | x, y => c.sameObject x y

def sameAll (c : Construction) : List Item → List Item → Bool
  | [], [] => true
  | x :: xs, y :: ys => same c x y && sameAll c xs ys
  | _, _ => false

end

def Object.collectionName? : Object → Option String
  | .datum _ | .notANumber => none
  | .list _ => some "list"
  | .dict _ => some "dict"
  | .orderedDict _ => some "ordereddict"
  | .set _ => some "set"

mutual

/-- What makes a key impossible to look up. -/
def unhashable? (c : Construction) : Item → Option String
  | .object number => (c.object? number).bind Object.collectionName?
  | .nothing => none
  | .tuple items => firstUnhashable? c items

def firstUnhashable? (c : Construction) : List Item → Option String
  | [] => none
  | x :: xs => (unhashable? c x).or (firstUnhashable? c xs)

end

/-- Sets a key's value. A key that is there keeps its place and its spelling. -/
def put (c : Construction) (key value : Item) : List (Item × Item) → List (Item × Item)
  | [] => [(key, value)]
  | (k, v) :: rest =>
    if c.same k key then (k, value) :: rest else (k, v) :: put c key value rest

def lookup (c : Construction) (key : Item) (entries : List (Item × Item)) : Option Item :=
  (entries.find? fun e => c.same e.1 key).map (·.2)

end Construction

/-! ## Data -/

mutual

/-- An item as data, given the data of objects. -/
def Item.toDatum (ofObject : Nat → Datum) : Item → Datum
  | .object number => ofObject number
  | .nothing => .none
  | .tuple items => .tuple (Item.allToData ofObject items)

def Item.allToData (ofObject : Nat → Datum) : List Item → List Datum
  | [] => []
  | x :: xs => x.toDatum ofObject :: Item.allToData ofObject xs

end

def Object.toDatum (ofObject : Nat → Datum) : Object → Datum
  | .datum d => d
  | .notANumber => .double .nan
  | .list items => .list (items.map (Item.toDatum ofObject))
  | .dict entries => .dict (entries.map fun e => (e.1.toDatum ofObject, e.2.toDatum ofObject))
  | .orderedDict entries =>
    .orderedDict (entries.map fun e => (e.1.toDatum ofObject, e.2.toDatum ofObject))
  | .set items => .set (items.map (Item.toDatum ofObject))

mutual

def Item.numbers : Item → List Nat
  | .object number => [number]
  | .nothing => []
  | .tuple items => Item.allNumbers items

def Item.allNumbers : List Item → List Nat
  | [] => []
  | x :: xs => x.numbers ++ Item.allNumbers xs

end

/-- The objects that an object refers to, keys apart. -/
def Object.numbers : Object → List Nat
  | .datum _ | .notANumber => []
  | .list items | .set items => items.flatMap Item.numbers
  | .dict entries | .orderedDict entries => entries.flatMap fun e => e.2.numbers

namespace Construction

def isCollection (c : Construction) (number : Nat) : Bool :=
  ((c.object? number).bind Object.collectionName?).isSome

/-- Some collection is referred to more than once, `root` being referred to from outside. -/
def isTangled (c : Construction) (root : Nat) : Bool :=
  let numbers := c.objects.toList.flatMap fun o => (o.map Object.numbers).getD []
  ((root :: numbers.filter c.isCollection).foldl
    (fun (seen, isTangled) n => (seen.setIfInBounds n true, isTangled || seen.getD n false))
    (Array.replicate c.objects.size false, false)).2

/-- An object with everything in it, if nothing is referred to more than once. -/
def wholeDatum (c : Construction) : Nat → Nat → Datum
  | 0, _ => .none
  | fuel + 1, number =>
    ((c.object? number).map (Object.toDatum (c.wholeDatum fuel))).getD .none

/-- A collection as a link, any other object as it is. -/
def partDatum (c : Construction) (number : Nat) : Datum :=
  if c.isCollection number then .link number
  else ((c.object? number).map (Object.toDatum .link)).getD .none

def parts (c : Construction) : List Datum :=
  c.objects.toList.map fun o => (o.map (Object.toDatum c.partDatum)).getD .none

def objectDatum (c : Construction) (number : Nat) : Datum :=
  if c.isTangled number then Datum.follow c.parts (c.partDatum number)
  else c.wholeDatum (c.objects.size + 1) number

def itemDatum (c : Construction) (i : Item) : Datum := i.toDatum c.objectDatum

end Construction

/-! ## Steps -/

namespace Build

def node (number : Nat) : Build Node := return (← get).node number

def setNode (number : Nat) (n : Node) : Build Unit :=
  modify fun c => { c with nodes := c.nodes.setIfInBounds number n }

def setObject (number : Nat) (o : Object) : Build Unit :=
  modify fun c => { c with objects := c.objects.setIfInBounds number (some o) }

def context : Build Context := return (← get).context

def setContext (context : Context) : Build Unit := modify fun c => { c with context }

def complain {α : Type} (problem : String) (mark : Mark) : Build α :=
  fun _ => fail none (.note problem) mark

def complainIn {α : Type} (what : String) (start : Mark) (problem : String) (mark : Mark) :
    Build α :=
  fun _ => fail (some (.constructing what, start)) (.note problem) mark

end Build

end Retrace.Yaml
