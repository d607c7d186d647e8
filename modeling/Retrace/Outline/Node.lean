/-!
# Trees of lines

A line stands alone; a block has a header and nodes one step deeper. Rendering
walks the tree in order and writes one line for each node. An empty text gives
an empty line, without offset or indentation.
-/

namespace Retrace.Outline

inductive Node where
  | line (text : List Char)
  | block (header : List Char) (children : List Node)
  deriving Repr, Inhabited

/-- The spaces of one step of depth. -/
def indentUnit : Nat := 4

/-- A depth below zero indents like zero. -/
def indentation (depth : Int) : List Char :=
  List.replicate (indentUnit * depth.toNat) ' '

def indented (offset : List Char) (depth : Int) (text : List Char) : List Char :=
  if text = [] then [] else offset ++ indentation depth ++ text

mutual

def Node.render (offset : List Char) (depth : Int) : Node → List (List Char)
  | .line text => [indented offset depth text]
  | .block header children =>
    indented offset depth header :: renderAll offset (depth + 1) children

def renderAll (offset : List Char) (depth : Int) : List Node → List (List Char)
  | [] => []
  | node :: nodes => node.render offset depth ++ renderAll offset depth nodes

end

theorem indented_of_ne_nil {text : List Char} (h : text ≠ []) (offset : List Char) (depth : Int) :
    indented offset depth text = offset ++ indentation depth ++ text := by
  simp [indented, h]

@[simp] theorem renderAll_nil (offset : List Char) (depth : Int) :
    renderAll offset depth [] = [] := by
  simp [renderAll]

theorem renderAll_cons (offset : List Char) (depth : Int) (node : Node) (nodes : List Node) :
    renderAll offset depth (node :: nodes)
      = node.render offset depth ++ renderAll offset depth nodes := by
  simp [renderAll]

theorem renderAll_append (offset : List Char) (depth : Int) (a b : List Node) :
    renderAll offset depth (a ++ b) = renderAll offset depth a ++ renderAll offset depth b := by
  induction a with
  | nil => simp
  | cons node a ih => simp [renderAll_cons, ih]

end Retrace.Outline
