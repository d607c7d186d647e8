import Retrace.Yaml.Fault
import Retrace.Yaml.Implicit

/-!
# Nodes

Nodes refer to each other by number, so a collection can hold a node that also
stands elsewhere, or even itself. Every node has a type: the one that its tag
names, or the one that its form implies.
-/

namespace Retrace.Yaml

/-! ## Types -/

inductive NodeType where
  | scalar (type : ScalarType)
  | bytes
  | sequence
  | mapping
  | set
  | orderedMapping
  | pairs
  | unknown (tag : List Char)
  deriving DecidableEq, Repr

/-- How the tags of the known types begin. -/
def tagStem : String := "tag:yaml.org,2002:"

def tagged (name : String) : List Char := (tagStem ++ name).toList

def ScalarType.all : List ScalarType :=
  [null, boolean, integer, decimal, timestamp, merge, default, indicator, text]

def ScalarType.tagName : ScalarType → String
  | null => "null"
  | boolean => "bool"
  | integer => "int"
  | decimal => "float"
  | timestamp => "timestamp"
  | merge => "merge"
  | default => "value"
  | indicator => "yaml"
  | text => "str"

/-- The types that a tag can name. -/
def taggedTypes : List (List Char × NodeType) :=
  (ScalarType.all.map fun t => (tagged t.tagName, NodeType.scalar t))
    ++ [(tagged "binary", .bytes), (tagged "seq", .sequence), (tagged "map", .mapping),
      (tagged "set", .set), (tagged "omap", .orderedMapping), (tagged "pairs", .pairs)]

def NodeType.ofTag (tag : List Char) : NodeType :=
  (taggedTypes.lookup tag).getD (.unknown tag)

/-- Whether what is made of a node has items of its own. -/
def NodeType.isCollection : NodeType → Bool
  | sequence | mapping | set | orderedMapping | pairs => true
  | _ => false

/-! ## Nodes -/

/-- Pairs of nodes, by number. -/
abbrev Pairs := List (Nat × Nat)

inductive Content where
  | scalar (points : List Nat)
  | sequence (items : List Nat)
  /-- Once other mappings have been merged into it, a mapping knows their pairs; they
  are also the first ones of all its pairs. -/
  | mapping (pairs : Pairs) (merged : Pairs := [])
  deriving DecidableEq, Repr

structure Node where
  type : NodeType
  content : Content
  mark : Mark
  deriving Repr

namespace Node

def kindName (n : Node) : String :=
  match n.content with
  | .scalar _ => "scalar"
  | .sequence _ => "sequence"
  | .mapping .. => "mapping"

def pairs (n : Node) : Pairs :=
  match n.content with
  | .mapping pairs _ => pairs
  | _ => []

/-- What stands where nothing is written. -/
def empty (mark : Mark) : Node := ⟨.scalar .null, .scalar [], mark⟩

instance : Inhabited Node := ⟨.empty {}⟩

/-- The tag of a node, quoted. -/
def tagText (n : Node) : String :=
  let tag :=
    match n.type with
    | .scalar type => tagged type.tagName
    | .unknown tag => tag
    | _ => []
  String.ofList (Datum.showText tag)

end Node

end Retrace.Yaml
