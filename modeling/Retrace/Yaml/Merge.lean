import Retrace.Yaml.Construction

/-!
# Merged pairs

In a mapping the pairs of other mappings can be merged: they come before its own
pairs, and of several mappings merged at once the last one comes first. A mapping
is merged before it is read, and again before another one merges it, when nothing
is left to do. While a mapping is being merged, it no longer has the pair that asks
for it, so a mapping can be merged into itself.
-/

namespace Retrace.Yaml.Build

def pairs (number : Nat) : Build Pairs := return (← node number).pairs

def setPairs (number : Nat) (pairs merged : Pairs) : Build Unit := do
  setNode number { (← node number) with content := .mapping pairs merged }

/-- The pairs that were merged into a mapping. -/
def mergedPairs (number : Nat) : Build Pairs := do
  match (← node number).content with
  | .mapping _ merged => return merged
  | _ => return []

/-- The pairs of a mapping, after `merge`, if the node is one. -/
def mappingPairs? (merge : Nat → Build Unit) (number : Nat) : Build (Option Pairs) := do
  match (← node number).content with
  | .mapping .. =>
    merge number
    return some (← pairs number)
  | _ => return none

/-- The pairs that the value of a merge key brings in. -/
def broughtIn (merge : Nat → Build Unit) (start : Mark) (value : Nat) : Build Pairs := do
  let n ← node value
  match n.content with
  | .mapping .. => return (← mappingPairs? merge value).getD []
  | .sequence items =>
    let parts ← items.mapM fun item => do
      match ← mappingPairs? merge item with
      | some pairs => return pairs
      | none =>
        let n ← node item
        complainIn "a mapping" start s!"expected a mapping for merging, but found {n.kindName}"
          n.mark
    return parts.reverse.flatten
  | .scalar _ =>
    complainIn "a mapping" start
      s!"expected a mapping or list of mappings for merging, but found {n.kindName}" n.mark

def finishMerge (number : Nat) (brought own : Pairs) : Build Unit :=
  if brought.isEmpty then pure () else setPairs number (brought ++ own) brought

/-- Goes through the pairs of a mapping, `done` being the ones before `rest`, the last one
first. Only one merge key may bring in something. If the mapping was merged in between,
nothing is left to do in the rest. -/
def mergeFrom (merge : Nat → Build Unit) (number : Nat) (start : Mark) :
    Pairs → Pairs → Pairs → Build Unit
  | done, [], brought => finishMerge number brought done.reverse
  | done, (key, value) :: rest, brought => do
    let k ← node key
    match k.type with
    | .scalar .merge =>
      if brought.isEmpty then
        let own := done.reverse ++ rest
        setPairs number own (← mergedPairs number)
        let brought ← broughtIn merge start value
        let now ← pairs number
        if now = own then mergeFrom merge number start done rest brought
        else finishMerge number brought now
      else complainIn "a mapping" start "found duplicate key \x22<<\x22" k.mark
    | .scalar .default =>
      setNode key { k with type := .scalar .text }
      mergeFrom merge number start ((key, value) :: done) rest brought
    | _ => mergeFrom merge number start ((key, value) :: done) rest brought

/-- Merges what the pairs of a mapping ask for. -/
def merge : Nat → Nat → Build Unit
  | 0, _ => pure ()
  | fuel + 1, number => do
    let n ← node number
    mergeFrom (merge fuel) number n.mark [] n.pairs []

end Retrace.Yaml.Build
