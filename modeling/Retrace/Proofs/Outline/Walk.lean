import Retrace.Outline.Node
import Mathlib.Data.List.Forall2

/-!
# Rendering as a walk

A place in a forest is the index of a tree, followed by the indices of children on
the way down. In the order of their places the nodes stand in pre-order: a block
before its children, and these before the trees behind it. Rendering writes one
line for each node in this order. What the line is depends on the text of the node
and on the number of blocks around it, and on nothing else in the forest.

The inductions are over the tree. A walk starts at any index, because the siblings
before a node count for its place but not for its line.
-/

namespace Retrace.Outline

namespace Node

/-- The text of a line or the header of a block. -/
def text : Node → List Char
  | .line text => text
  | .block header _ => header

def children : Node → List Node
  | .line _ => []
  | .block _ children => children

/-- The node at the end of a way down from a node. -/
def descendant? : Node → List Nat → Option Node
  | node, [] => some node
  | node, i :: path => node.children[i]?.bind fun child => child.descendant? path

end Node

/-- The node at a place in a forest. The forest itself is not a node. -/
def nodeAt? (nodes : List Node) : List Nat → Option Node
  | [] => none
  | i :: path => nodes[i]?.bind fun node => node.descendant? path

/-- A node and its place. -/
structure Visit where
  place : List Nat
  node : Node

namespace Visit

/-- The number of blocks around a node that is visited in a forest. -/
def level (v : Visit) : Nat := v.place.length - 1

/-- A visit below a node, seen from the list in which that node has an index. -/
def under (i : Nat) (v : Visit) : Visit := ⟨i :: v.place, v.node⟩

@[simp] theorem level_under (i : Nat) (v : Visit) : (v.under i).level = v.place.length := rfl

/-- The line of a visited node. Below zero there are no spaces to be written. -/
def line (offset : List Char) (depth : Int) (v : Visit) : List Char :=
  if v.node.text = [] then []
  else offset ++ List.replicate (4 * (depth + v.level)).toNat ' ' ++ v.node.text

end Visit

mutual

/-- The visits of a walk from a node, which stands at the end of no way at all. -/
def Node.visits : Node → List Visit
  | .line text => [⟨[], .line text⟩]
  | .block header children => ⟨[], .block header children⟩ :: visitsFrom 0 children

/-- The visits of a walk over nodes, the first of which has an index. -/
def visitsFrom (i : Nat) : List Node → List Visit
  | [] => []
  | node :: nodes => node.visits.map (Visit.under i) ++ visitsFrom (i + 1) nodes

end

/-- The nodes of a forest in pre-order. -/
def visits (nodes : List Node) : List Visit := visitsFrom 0 nodes

/-! ## Every node is visited -/

theorem mem_visitsFrom {nodes : List Node} {i : Nat} {v : Visit} :
    v ∈ visitsFrom i nodes ↔
      ∃ (j : Nat) (child : Node) (w : Visit),
        nodes[j]? = some child ∧ w ∈ child.visits ∧ v = w.under (i + j) := by
  induction nodes generalizing i with
  | nil => simp [visitsFrom]
  | cons node nodes ih =>
    rw [visitsFrom, List.mem_append, List.mem_map, ih]
    constructor
    · rintro (⟨w, hw, rfl⟩ | ⟨j, child, w, hchild, hw, rfl⟩)
      · exact ⟨0, node, w, rfl, hw, rfl⟩
      · exact ⟨j + 1, child, w, hchild, hw, by rw [Nat.add_assoc, Nat.add_comm 1 j]⟩
    · rintro ⟨_ | j, child, w, hchild, hw, rfl⟩
      · cases hchild
        exact .inl ⟨w, hw, rfl⟩
      · exact .inr ⟨j, child, w, hchild, hw, by rw [Nat.add_assoc, Nat.add_comm 1 j]⟩

theorem mem_visitsFrom_zero_cons {nodes : List Node} {i : Nat} {path : List Nat} {node : Node} :
    ⟨i :: path, node⟩ ∈ visitsFrom 0 nodes ↔
      ∃ child, nodes[i]? = some child ∧ ⟨path, node⟩ ∈ child.visits := by
  rw [mem_visitsFrom]
  constructor
  · rintro ⟨j, child, w, hchild, hw, heq⟩
    simp only [Visit.under, Nat.zero_add, Visit.mk.injEq, List.cons.injEq] at heq
    obtain ⟨⟨rfl, rfl⟩, rfl⟩ := heq
    exact ⟨child, hchild, hw⟩
  · rintro ⟨child, hchild, hw⟩
    exact ⟨i, child, ⟨path, node⟩, hchild, hw, by simp [Visit.under]⟩

theorem place_ne_nil_of_mem_visitsFrom {nodes : List Node} {i : Nat} {v : Visit}
    (h : v ∈ visitsFrom i nodes) : v.place ≠ [] := by
  obtain ⟨j, child, w, -, -, rfl⟩ := mem_visitsFrom.mp h
  exact List.cons_ne_nil _ _

theorem mem_nodeVisits_nil {start node : Node} : ⟨[], node⟩ ∈ start.visits ↔ start = node := by
  cases start with
  | line text => simp [Node.visits, eq_comm]
  | block header children =>
    have hchildren : ⟨[], node⟩ ∉ visitsFrom 0 children :=
      fun h => place_ne_nil_of_mem_visitsFrom h rfl
    simp [Node.visits, hchildren, eq_comm]

theorem mem_nodeVisits_cons {start node : Node} {i : Nat} {path : List Nat} :
    ⟨i :: path, node⟩ ∈ start.visits ↔
      ∃ child, start.children[i]? = some child ∧ ⟨path, node⟩ ∈ child.visits := by
  cases start with
  | line text => simp [Node.visits, Node.children]
  | block header children => simp [Node.visits, Node.children, mem_visitsFrom_zero_cons]

/-- A walk from a node visits what can be reached from it, each node where it is reached. -/
theorem mem_nodeVisits {start node : Node} {path : List Nat} :
    ⟨path, node⟩ ∈ start.visits ↔ start.descendant? path = some node := by
  induction path generalizing start with
  | nil => rw [mem_nodeVisits_nil, Node.descendant?, Option.some.injEq]
  | cons i path ih =>
    rw [mem_nodeVisits_cons, Node.descendant?, Option.bind_eq_some_iff]
    simp only [ih]

theorem mem_visits {nodes : List Node} {v : Visit} :
    v ∈ visits nodes ↔ nodeAt? nodes v.place = some v.node := by
  obtain ⟨_ | ⟨i, path⟩, node⟩ := v
  · have hnil : ⟨[], node⟩ ∉ visits nodes := fun h => place_ne_nil_of_mem_visitsFrom h rfl
    simp [nodeAt?, hnil]
  · rw [visits, mem_visitsFrom_zero_cons, nodeAt?, Option.bind_eq_some_iff]
    simp only [mem_nodeVisits]

/-! ## Places grow -/

/-- A visit is before another one if its place is: a way is before the ways that go on from it,
and else the first different index decides. -/
def Visit.IsBefore (v w : Visit) : Prop := v.place < w.place

theorem Visit.IsBefore.under {v w : Visit} (h : v.IsBefore w) (i : Nat) :
    (v.under i).IsBefore (w.under i) :=
  List.cons_lt_cons_iff.mpr (.inr ⟨rfl, h⟩)

theorem Visit.isBefore_under_of_lt {i j : Nat} (h : i < j) (v w : Visit) :
    (v.under i).IsBefore (w.under j) :=
  List.cons_lt_cons_iff.mpr (.inl h)

mutual

theorem Node.pairwise_visits : ∀ node : Node, node.visits.Pairwise Visit.IsBefore
  | .line text => List.pairwise_singleton _ _
  | .block header children => by
    rw [Node.visits, List.pairwise_cons]
    refine ⟨?_, pairwise_visitsFrom 0 children⟩
    intro v hv
    obtain ⟨j, child, w, -, -, rfl⟩ := mem_visitsFrom.mp hv
    exact List.nil_lt_cons _ _

theorem pairwise_visitsFrom (i : Nat) :
    ∀ nodes : List Node, (visitsFrom i nodes).Pairwise Visit.IsBefore
  | [] => .nil
  | node :: nodes => by
    rw [visitsFrom, List.pairwise_append]
    refine ⟨?_, pairwise_visitsFrom (i + 1) nodes, ?_⟩
    · exact (Node.pairwise_visits node).map (Visit.under i) fun _ _ h => h.under i
    · intro v hv w hw
      obtain ⟨v, -, rfl⟩ := List.mem_map.mp hv
      obtain ⟨j, child, w, -, -, rfl⟩ := mem_visitsFrom.mp hw
      exact Visit.isBefore_under_of_lt (by omega) v w

end

/-! ## Lines -/

theorem Visit.line_eq_indented (offset : List Char) (depth : Int) (v : Visit) :
    v.line offset depth = indented offset (depth + v.level) v.node.text := by
  have hspaces (steps : Int) : (4 * steps).toNat = indentUnit * steps.toNat := by
    rw [indentUnit]
    omega
  rw [line, indented, indentation, hspaces]

mutual

theorem Node.render_eq_map_visits (offset : List Char) (depth : Int) : ∀ node : Node,
    node.render offset depth
      = node.visits.map fun v => indented offset (depth + v.place.length) v.node.text
  | .line text => by simp [Node.render, Node.visits, Node.text]
  | .block header children => by
    have hdeeper (steps : Nat) : depth + 1 + steps = depth + (steps + 1 : Nat) := by omega
    rw [Node.render, renderAll_eq_map_visitsFrom offset (depth + 1) 0 children, Node.visits,
      List.map_cons]
    congr 1
    · simp [Node.text]
    · apply List.map_congr_left
      intro v hv
      obtain ⟨j, child, w, -, -, rfl⟩ := mem_visitsFrom.mp hv
      rw [Visit.line_eq_indented, Visit.level_under, hdeeper]
      rfl

theorem renderAll_eq_map_visitsFrom (offset : List Char) (depth : Int) (i : Nat) :
    ∀ nodes : List Node,
      renderAll offset depth nodes = (visitsFrom i nodes).map (Visit.line offset depth)
  | [] => by simp [visitsFrom]
  | node :: nodes => by
    rw [renderAll_cons, Node.render_eq_map_visits offset depth node,
      renderAll_eq_map_visitsFrom offset depth (i + 1) nodes, visitsFrom, List.map_append,
      List.map_map]
    congr 1
    apply List.map_congr_left
    intro v _
    rw [Function.comp_apply, Visit.line_eq_indented, Visit.level_under]
    rfl

end

/-! ## Depth -/

/-- A line and the same line with more spaces behind the offset. An empty line stays empty. -/
inductive IsDeeper (offset : List Char) (spaces : Nat) : List Char → List Char → Prop
  | blank : IsDeeper offset spaces [] []
  | behind {rest : List Char} (h : rest ≠ []) :
    IsDeeper offset spaces (offset ++ rest) (offset ++ List.replicate spaces ' ' ++ rest)

theorem Visit.line_isDeeper {depth : Int} {v : Visit} (h : 0 ≤ depth + v.level)
    (offset : List Char) (k : Nat) :
    IsDeeper offset (4 * k) (v.line offset depth) (v.line offset (depth + k)) := by
  by_cases htext : v.node.text = []
  · rw [line, line, if_pos htext, if_pos htext]
    exact .blank
  · have hspaces : (4 * (depth + k + v.level)).toNat
        = 4 * k + (4 * (depth + v.level)).toNat := by omega
    have hrest : List.replicate (4 * (depth + v.level)).toNat ' ' ++ v.node.text ≠ [] :=
      List.append_ne_nil_of_right_ne_nil _ htext
    rw [line, line, if_neg htext, if_neg htext, hspaces, List.replicate_add]
    simpa only [List.append_assoc] using @IsDeeper.behind offset (4 * k) _ hrest

/-- Rendering walks a forest in pre-order: the visits are in the order of their places, they are
all nodes of the forest, and each of them has its line. So forests one behind the other are
rendered one behind the other. Each step that is added to the depth puts four spaces behind the
offset of every line that is not empty. A depth below zero is no number of steps, and a line there
has no spaces that could be counted on from. -/
theorem renderAll_visits (offset : List Char) (depth : Int) (nodes : List Node) :
    (visits nodes).Pairwise Visit.IsBefore
      ∧ (∀ v, v ∈ visits nodes ↔ nodeAt? nodes v.place = some v.node)
      ∧ renderAll offset depth nodes = (visits nodes).map (Visit.line offset depth)
      ∧ (∀ more, renderAll offset depth (nodes ++ more)
          = renderAll offset depth nodes ++ renderAll offset depth more)
      ∧ ∀ k : Nat, List.Forall₂
          (fun v lines => 0 ≤ depth + v.level → IsDeeper offset (4 * k) lines.1 lines.2)
          (visits nodes)
          ((renderAll offset depth nodes).zip (renderAll offset (depth + k) nodes)) := by
  have hlines (d : Int) : renderAll offset d nodes = (visits nodes).map (Visit.line offset d) :=
    renderAll_eq_map_visitsFrom offset d 0 nodes
  refine ⟨pairwise_visitsFrom 0 nodes, fun _ => mem_visits, hlines depth,
    renderAll_append offset depth nodes, ?_⟩
  intro k
  rw [hlines, hlines, List.zip_map', List.forall₂_map_right_iff, List.forall₂_same]
  intro v _ hdepth
  exact v.line_isDeeper hdepth offset k

/-- A block whose first line is blank, one step deep and then three steps. -/
theorem renderAll_visits_blank :
    let forest : List Node := [.block ['a'] [.line [], .line ['b']]]
    renderAll ['>'] 1 forest
        = ['>' :: List.replicate 4 ' ' ++ ['a'], [], '>' :: List.replicate 8 ' ' ++ ['b']]
      ∧ List.Forall₂ (IsDeeper ['>'] 8) (renderAll ['>'] 1 forest) (renderAll ['>'] 3 forest) := by
  intro forest
  obtain ⟨-, -, hlines, -, hdeeper⟩ := renderAll_visits ['>'] 1 forest
  refine ⟨by rw [hlines]; rfl, ?_⟩
  obtain ⟨hheader, hdeeper⟩ := List.forall₂_cons.mp (hdeeper 2)
  obtain ⟨hblank, hdeeper⟩ := List.forall₂_cons.mp hdeeper
  obtain ⟨htext, -⟩ := List.forall₂_cons.mp hdeeper
  exact .cons (hheader (by decide)) (.cons (hblank (by decide)) (.cons (htext (by decide)) .nil))

end Retrace.Outline
