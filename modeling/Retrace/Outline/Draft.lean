import Retrace.Outline.Node
import Retrace.Text.Blank
import Retrace.Text.Lines

/-!
# Outlines written line by line

A draft is a list of text lines and finished nodes. In a text line a final
opening brace begins a block, and a closing brace alone ends the innermost one;
blocks that are still open at the end are closed there. Nodes are taken as they
are, whatever their texts look like.
-/

namespace Retrace.Outline

inductive Piece where
  | text (line : List Char)
  | node (node : Node)
  deriving Repr, Inhabited

def blockOpen : Char := '\x7b'

def blockClose : Char := '\x7d'

/-- The header of the block that a text line begins. -/
def header? (line : List Char) : Option (List Char) :=
  if line.getLast? = some blockOpen then some (Text.stripEnd line.dropLast) else none

/-- The lines of a text, stripped one by one after the text itself. -/
def Piece.ofText (s : List Char) : List Piece :=
  (Text.splitLines (Text.strip s)).map fun line => .text (Text.strip line)

/-- The place in a tree where the next node goes: the nodes before it and,
innermost first, the open blocks with the nodes before each of them. -/
structure Cursor where
  nodes : List Node
  outer : List (List Node × List Char)

namespace Cursor

def start : Cursor := ⟨[], []⟩

def add (c : Cursor) (node : Node) : Cursor := { c with nodes := c.nodes ++ [node] }

def openBlock (c : Cursor) (header : List Char) : Cursor :=
  ⟨[], (c.nodes, header) :: c.outer⟩

/-- The cursor after the innermost open block, if there is one. -/
def closeBlock? (c : Cursor) : Option Cursor :=
  match c.outer with
  | [] => none
  | (before, header) :: outer => some ⟨before ++ [.block header c.nodes], outer⟩

def step (c : Cursor) : Piece → Option Cursor
  | .node node => some (c.add node)
  | .text line =>
    if line = [blockClose] then c.closeBlock?
    else
      match header? line with
      | some header => some (c.openBlock header)
      | none => some (c.add (.line line))

/-- Closes the open blocks, from the innermost outwards. -/
def finish (nodes : List Node) : List (List Node × List Char) → List Node
  | [] => nodes
  | (before, header) :: outer => finish (before ++ [.block header nodes]) outer

def toNodes (c : Cursor) : List Node := finish c.nodes c.outer

end Cursor

/-- The lines of some nodes, all under the same offset. -/
def textOf (offset : Nat) (nodes : List Node) : List Char :=
  Text.joinLines (renderAll (List.replicate offset ' ') 0 nodes)

structure Draft where
  offset : Nat := 0
  pieces : List Piece := []

namespace Draft

def add (d : Draft) (s : List Char) : Draft :=
  { d with pieces := d.pieces ++ Piece.ofText s }

def addNode (d : Draft) (node : Node) : Draft :=
  { d with pieces := d.pieces ++ [.node node] }

def insertFirst (d : Draft) (s : List Char) : Draft :=
  { d with pieces := Piece.ofText s ++ d.pieces }

def insertNodeFirst (d : Draft) (node : Node) : Draft :=
  { d with pieces := .node node :: d.pieces }

def addBlankLine (d : Draft) : Draft :=
  { d with pieces := d.pieces ++ [.text []] }

/-- The tree, unless a closing brace has no block to end. -/
def toNodes? (d : Draft) : Option (List Node) :=
  (d.pieces.foldlM Cursor.step Cursor.start).map Cursor.toNodes

def text? (d : Draft) : Option (List Char) := d.toNodes?.map (textOf d.offset)

end Draft

end Retrace.Outline
