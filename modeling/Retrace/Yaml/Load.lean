import Retrace.Text.Base64
import Retrace.Yaml.Merge

/-!
# The data of a YAML text

Collections become lists, dictionaries and sets. They are filled one level after
the other, so what is wrong in a collection comes before what is wrong inside the
collections that it holds.
-/

namespace Retrace.Yaml

/-! ## Scalars -/

/-- The code points of a scalar, or of the default value in a mapping. -/
def scalarPoints (c : Construction) : Nat → Nat → Except Fault (List Nat)
  | 0, _ => fail none (.note "") {}
  | fuel + 1, number =>
    let n := c.node number
    match n.content with
    | .scalar points => .ok points
    | _ =>
      match n.pairs.find? fun p => (c.node p.1).type = .scalar .default with
      | some (_, value) => scalarPoints c fuel value
      | none =>
        fail none (.note s!"expected a scalar node, but found {n.kindName}") n.mark

/-- A time has to be written as a scalar. -/
def timestampPoints (n : Node) : List Nat :=
  match n.content with
  | .scalar points => points
  | _ => []

def scalarObject (c : Construction) (type : ScalarType) (number : Nat) : Except Fault Object := do
  let n := c.node number
  let points ←
    if type = .timestamp then pure (timestampPoints n)
    else scalarPoints c (c.nodes.size + 1) number
  let text := points.map Text.viewed
  match ← (readScalar c.version type points).mapError .scalar with
  | some d =>
    return if type = .decimal && isNotANumberWord text then .notANumber else .datum d
  | none =>
    fail none
      (.note (s!"failed to construct timestamp from \x22" ++ String.ofList text ++ "\x22")) n.mark

def bytesDatum (c : Construction) (number : Nat) : Except Fault Datum := do
  let n := c.node number
  let text := (← scalarPoints c (c.nodes.size + 1) number).map Text.viewed
  if text.any fun ch => 0x7f < ch.toNat then
    fail none (.note "failed to convert base64 data into ascii") n.mark
  else
    match Text.Base64.decode? text with
    | some bytes => return .bytes bytes
    | none => fail none (.note "failed to decode base64 data") n.mark

namespace Build

/-- What a node is to begin with. -/
def begun (number : Nat) : Build Object := do
  let c ← get
  let n := c.node number
  match n.type with
  | .scalar .merge | .scalar .default | .scalar .indicator | .unknown _ =>
    complain ("could not determine a constructor for the tag " ++ n.tagText) n.mark
  | .scalar type => scalarObject c type number
  | .bytes => return .datum (← bytesDatum c number)
  | .sequence | .pairs => return .list []
  | .mapping => return .dict []
  | .set => return .set []
  | .orderedMapping => return .orderedDict []

/-! ## Mappings -/

/-- Makes a node into an item; the flag tells whether collections are filled at once. -/
abbrev Maker := Bool → Nat → Build Item

/-- What is made of a key. -/
def keyItem (make : Maker) (start : Mark) (key : Nat) : Build Item := do
  match ← make true key with
  | .object number =>
    let c ← get
    match c.object? number with
    | some (.list items) => return .tuple items
    | _ =>
      if c.isCollection number then
        complainIn "a mapping" start "found unhashable key" (c.node key).mark
      else return .object number
  | i => return i

def checkHashable (key : Item) : Build Unit := do
  match (← get).unhashable? key with
  | some kind => throw (.unhashable kind)
  | none => return ()

def repeatedKey {α : Type} (start mark : Mark) (key value old : Item) : Build α := do
  let c ← get
  let plain := fun (i : Item) => (c.itemDatum i).plain
  complainIn "a mapping" start
    ("found duplicate key \x22" ++ plain key ++ "\x22 with value \x22" ++ plain value
      ++ "\x22 (original value: \x22" ++ plain old ++ "\x22)") mark

/-- Adds a pair to entries, among which its key must be new if it has to be checked. -/
def addPair (make : Maker) (isChecked : Bool) (start : Mark) (entries : List (Item × Item))
    (pair : Nat × Nat) : Build (List (Item × Item)) := do
  let key ← keyItem make start pair.1
  let value ← make false pair.2
  checkHashable key
  let c ← get
  match c.lookup key entries with
  | some old => if isChecked then repeatedKey start (c.node pair.1).mark key value old
  | none => pure ()
  return c.put key value entries

/-- The entries of a mapping; those that are merged may be overridden by the others. -/
def mappingEntries (make : Maker) (merge : Nat → Build Unit) (number : Nat) :
    Build (List (Item × Item)) := do
  merge number
  let n ← node number
  match n.content with
  | .mapping pairs [] => pairs.foldlM (addPair make true n.mark) []
  | .mapping pairs merged =>
    let first ← merged.foldlM (addPair make false n.mark) []
    let second ← pairs.foldlM (addPair make false n.mark) []
    let c ← get
    return second.foldl (fun entries e => c.put e.1 e.2 entries) first
  | _ => complain s!"expected a mapping node, but found {n.kindName}" n.mark

/-! ## Lists of pairs -/

/-- The only pair of a mapping in a list of pairs. -/
def onlyPair (what : String) (start : Mark) (item : Nat) : Build (Nat × Nat) := do
  let n ← node item
  match n.content with
  | .mapping [pair] _ => return pair
  | .mapping pairs _ =>
    complainIn what start s!"expected a single mapping item, but found {pairs.length} items" n.mark
  | _ =>
    complainIn what start s!"expected a mapping of length 1, but found {n.kindName}" n.mark

/-- Goes through a list of pairs with their nodes. -/
def forPairs (what : String) (number : Nat) (step : Nat × Nat → Build Unit) : Build Unit := do
  let n ← node number
  match n.content with
  | .sequence items => items.forM fun item => do step (← onlyPair what n.mark item)
  | _ => complainIn what n.mark s!"expected a sequence, but found {n.kindName}" n.mark

/-- Adds a pair to a list of pairs. -/
def appendPair (make : Maker) (number : Nat) (pair : Nat × Nat) : Build Unit := do
  let key ← make false pair.1
  let value ← make false pair.2
  match (← get).object? number with
  | some (.list items) => setObject number (.list (items ++ [.tuple [key, value]]))
  | _ => pure ()

/-- Adds a pair to an ordered dictionary, in which its key must be new. -/
def insertPair (make : Maker) (number : Nat) (pair : Nat × Nat) : Build Unit := do
  let key ← make false pair.1
  checkHashable key
  match (← get).object? number with
  | some (.orderedDict entries) =>
    if ((← get).lookup key entries).isSome then throw .repeatedKey
    let value ← make false pair.2
    setObject number (.orderedDict (entries ++ [(key, value)]))
  | _ => pure ()

/-! ## Nodes -/

/-- Fills a collection that has been begun. -/
def fillWith (make : Maker) (merge : Nat → Build Unit) (number : Nat) : Build Unit := do
  let n ← node number
  match n.type, n.content with
  | .sequence, .sequence items => do
    setObject number (.list (← items.mapM (make false)))
  | .sequence, _ =>
    complain s!"expected a sequence node, but found {n.kindName}" n.mark
  | .mapping, _ => do setObject number (.dict (← mappingEntries make merge number))
  | .set, _ => do
    setObject number (.set ((← mappingEntries make merge number).map (·.1)))
  | .pairs, _ => forPairs "pairs" number (appendPair make number)
  | .orderedMapping, _ => forPairs "an ordered map" number (insertPair make number)
  | _, _ => pure ()

/-- Makes a node, unless it has been made or is being made. -/
def makeWith (fill : Nat → Build Unit) : Maker := fun atOnce number => do
  let ⟨unfinished, outer⟩ ← context
  if unfinished.contains number then return .nothing
  if ((← get).object? number).isSome then return .object number
  setContext ⟨number :: unfinished, outer || atOnce⟩
  setObject number (← begun number)
  if (← node number).type.isCollection then
    if outer || atOnce then fill number else modify fun c => c.wait number
  setContext ⟨unfinished, outer⟩
  return .object number

def fill : Nat → Nat → Build Unit
  | 0, _ => pure ()
  | fuel + 1, number => fillWith (makeWith (fill fuel)) (merge fuel) number

/-- Fills the collections that wait, and then the ones that wait because of them. -/
def fillWaiting (fuel : Nat) : Nat → Build Unit
  | 0 => pure ()
  | rounds + 1 => do
    match (← get).waiting.reverse with
    | [] => return ()
    | numbers =>
      modify fun c => { c with waiting := [] }
      numbers.forM (fill fuel)
      fillWaiting fuel rounds

/-- The datum of a node with everything in it. The bounds count the nodes that can be
inside each other, and the merges. -/
def document (fuel root : Nat) : Build Datum := do
  let i ← makeWith (fill fuel) false root
  fillWaiting fuel fuel
  return (← get).itemDatum i

end Build

/-- The data of a text; a text without a document holds nothing. -/
def load (source : List Char) : Except Fault Datum := do
  match ← parse source with
  | none => return .none
  | some d => (Build.document (source.length + 2) d.root).run' (.ofDocument d)

end Retrace.Yaml
