import Retrace.Proofs.Outline.Streaming
import Retrace.Proofs.Text.Strip

/-!
# Trees written with braces

Every tree can be written as lines: a line as its text, a block as its header with
an opening brace, its children and a closing brace. Reading these lines gives the
tree back, whatever spaces stand around them, and the closing braces at the very
end are not needed.

The induction is over the tree: the lines of a node add it to the cursor where it
stands, whatever blocks are open around it.
-/

namespace Retrace.Outline

/-! ## Writing -/

/-- A text that can be a line of its own. -/
structure IsLineText (s : List Char) : Prop where
  noFeed : '\n' ∉ s
  trimmed : Text.strip s = s

/-- Trees whose lines are not taken for the beginning or the end of a block. Headers end in
a brace anyway, so they may also look like one. -/
inductive Node.IsWritable : Node → Prop
  | line {text : List Char} (h : IsLineText text) (hclose : text ≠ [blockClose])
    (hopen : text.getLast? ≠ some blockOpen) : IsWritable (.line text)
  | block {header : List Char} {children : List Node} (h : IsLineText header)
    (hchildren : ∀ child ∈ children, child.IsWritable) : IsWritable (.block header children)

/-- The line that begins a block. -/
def openingLine (header : List Char) : List Char := header ++ [' ', blockOpen]

mutual

/-- A node as lines, without indentation. -/
def Node.marked : Node → List (List Char)
  | .line text => [text]
  | .block header children => openingLine header :: markedAll children ++ [[blockClose]]

def markedAll : List Node → List (List Char)
  | [] => []
  | node :: nodes => node.marked ++ markedAll nodes

end

theorem mem_markedAll {nodes : List Node} {line : List Char} :
    line ∈ markedAll nodes ↔ ∃ node ∈ nodes, line ∈ node.marked := by
  induction nodes with
  | nil => simp [markedAll]
  | cons node nodes ih => simp [markedAll, ih]

/-- A line with spaces around it. -/
inductive IsPadded (line : List Char) : List Char → Prop
  | spaces (before after : Nat) :
    IsPadded line (List.replicate before ' ' ++ line ++ List.replicate after ' ')

theorem IsPadded.strip_eq {line s : List Char} (h : IsPadded line s) :
    Text.strip s = Text.strip line := by
  obtain ⟨before, after⟩ := h
  exact Text.strip_padded (Text.isBlankText_replicate before) (Text.isBlankText_replicate after)
    line

theorem IsPadded.noFeed {line s : List Char} (h : IsPadded line s) (hline : '\n' ∉ line) :
    '\n' ∉ s := by
  obtain ⟨before, after⟩ := h
  simp [List.mem_replicate, hline]

theorem noFeed_marked {node : Node} (h : node.IsWritable) : ∀ line ∈ node.marked, '\n' ∉ line := by
  induction h with
  | line h => simpa [Node.marked] using h.noFeed
  | @block header children h _ ih =>
    intro line hline
    rw [Node.marked, List.mem_append, List.mem_cons, List.mem_singleton] at hline
    obtain (rfl | hline) | rfl := hline
    · simp [openingLine, h.noFeed, blockOpen]
    · obtain ⟨child, hchild, hline⟩ := mem_markedAll.mp hline
      exact ih child hchild line hline
    · decide

/-! ## Reading one line -/

/-- The piece that a line is read as. -/
def pieceOf (line : List Char) : Piece := .text (Text.strip line)

theorem strip_openingLine {header : List Char} (h : IsLineText header) :
    Text.strip (openingLine header) = [blockOpen] ∧ header = []
      ∨ Text.strip (openingLine header) = openingLine header := by
  by_cases hvisible : Text.isVisible header = true
  · right
    rw [openingLine, Text.strip, Text.stripStart_append_of_isVisible hvisible,
      Text.stripStart_of_strip h.trimmed, Text.stripEnd_append_of_isVisible header (by decide)]
    rfl
  · left
    have hblank := Text.isVisible_eq_false_iff.mp (Bool.eq_false_iff.mpr hvisible)
    have hnil : header = [] := by rw [← h.trimmed, Text.strip_of_isBlankText hblank]
    rw [hnil]
    exact ⟨by decide, rfl⟩

theorem header?_openingLine {header : List Char} (h : IsLineText header) :
    header? (openingLine header) = some header := by
  have hend : Text.stripEnd (header ++ [' ']) = Text.stripEnd header :=
    Text.stripEnd_append_of_isBlankText header (Text.isBlankText_replicate 1)
  have hlast : (openingLine header).getLast? = some blockOpen := by simp [openingLine]
  have hfront : (openingLine header).dropLast = header ++ [' '] :=
    List.dropLast_append_of_ne_nil (by simp)
  rw [header?, if_pos hlast, hfront, hend, Text.stripEnd_of_strip h.trimmed]

namespace Cursor

variable (c : Cursor)

theorem step_openingLine {header : List Char} (h : IsLineText header) :
    c.step (pieceOf (openingLine header)) = some (c.openBlock header) := by
  rw [pieceOf]
  obtain ⟨hbrace, rfl⟩ | hstrip := strip_openingLine h
  · rw [hbrace]
    rfl
  · have hclose : openingLine header ≠ [blockClose] := by
      intro heq
      have hlast := congrArg List.getLast? heq
      simp [openingLine, blockOpen, blockClose] at hlast
    rw [hstrip, step, if_neg hclose, header?_openingLine h]

theorem step_blockClose : c.step (pieceOf [blockClose]) = c.closeBlock? := rfl

theorem step_line {text : List Char} (h : IsLineText text) (hclose : text ≠ [blockClose])
    (hopen : text.getLast? ≠ some blockOpen) :
    c.step (pieceOf text) = some (c.add (.line text)) := by
  rw [pieceOf, h.trimmed, step, if_neg hclose, header?, if_neg hopen]

/-! ## Reading a tree -/

/-- If each node is read as it is written, so are all of them, one after the other. -/
theorem foldlM_markedAll_of {nodes : List Node}
    (h : ∀ node ∈ nodes, ∀ c, (node.marked.map pieceOf).foldlM step c = some (c.add node)) :
    ((markedAll nodes).map pieceOf).foldlM step c = some { c with nodes := c.nodes ++ nodes } := by
  induction nodes generalizing c with
  | nil => simp [markedAll]
  | cons node nodes ih =>
    obtain ⟨hnode, hnodes⟩ := List.forall_mem_cons.mp h
    rw [markedAll, List.map_append, List.foldlM_append, hnode]
    change ((markedAll nodes).map pieceOf).foldlM step (c.add node) = _
    rw [ih (c.add node) hnodes]
    simp [add]

/-- The lines of a node add it where they stand. -/
theorem foldlM_marked {node : Node} (h : node.IsWritable) :
    (node.marked.map pieceOf).foldlM step c = some (c.add node) := by
  induction h generalizing c with
  | line h hclose hopen => simp [Node.marked, step_line c h hclose hopen]
  | @block header children h _ ih =>
    rw [Node.marked, List.cons_append, List.map_cons, List.foldlM_cons, step_openingLine c h,
      List.map_append]
    change List.foldlM step (c.openBlock header) (_ ++ _) = _
    rw [List.foldlM_append, foldlM_markedAll_of _ fun child hchild c => ih child hchild c]
    rfl

theorem foldlM_markedAll {nodes : List Node} (h : ∀ node ∈ nodes, node.IsWritable) :
    ((markedAll nodes).map pieceOf).foldlM step c = some { c with nodes := c.nodes ++ nodes } :=
  foldlM_markedAll_of c fun node hnode c => foldlM_marked c (h node hnode)

/-! ## Closing braces left out -/

theorem toNodes_closeBlock? {c c' : Cursor} (h : c.closeBlock? = some c') :
    c'.toNodes = c.toNodes := by
  obtain ⟨nodes, outer⟩ := c
  cases outer with
  | nil => cases h
  | cons block outer =>
    cases h
    rfl

/-- Blocks that are closed by braces are what they are if they are closed at the end. -/
theorem toNodes_foldlM_blockClose {c c' : Cursor} (k : Nat)
    (h : ((List.replicate k [blockClose]).map pieceOf).foldlM step c = some c') :
    c'.toNodes = c.toNodes := by
  induction k generalizing c with
  | zero =>
    cases h
    rfl
  | succ k ih =>
    rw [List.replicate_succ, List.map_cons, List.foldlM_cons, step_blockClose] at h
    obtain ⟨closed, hclosed, hrest⟩ := Option.bind_eq_some_iff.mp h
    rw [ih hrest, toNodes_closeBlock? hclosed]

end Cursor

/-! ## Drafts -/

theorem ofText_eq_singleton {s : List Char} (h : '\n' ∉ s) : Piece.ofText s = [pieceOf s] := by
  have hstrip : '\n' ∉ Text.strip s := fun hmem => h (Text.strip_subset s hmem)
  rw [Piece.ofText, Text.splitLines_of_not_mem hstrip, List.map_singleton, Text.strip_strip]
  rfl

/-- A text whose first and last line are visible is read line by line. -/
theorem ofText_joinLines {texts : List (List Char)} {first last : List Char}
    (hfeed : ∀ s ∈ texts, '\n' ∉ s) (hhead : texts.head? = some first)
    (hlast : texts.getLast? = some last) (hfirst : Text.isVisible first = true)
    (hend : Text.isVisible last = true) :
    Piece.ofText (Text.joinLines texts) = texts.map pieceOf := by
  obtain ⟨rest, rfl⟩ := List.head?_eq_some_iff.mp hhead
  by_cases hrest : rest = []
  · subst hrest
    rw [Text.joinLines_singleton]
    exact ofText_eq_singleton (hfeed first (by simp))
  · obtain ⟨middle, rfl⟩ : ∃ middle, rest = middle ++ [last] := by
      rw [List.getLast?_cons_of_ne_nil hrest] at hlast
      exact List.getLast?_eq_some_iff.mp hlast
    have hstrip : Text.strip (Text.joinLines (first :: (middle ++ [last])))
        = Text.joinLines (Text.stripStart first :: (middle ++ [Text.stripEnd last])) := by
      rw [Text.strip, Text.stripStart_joinLines hfirst, ← List.cons_append,
        Text.stripEnd_joinLines _ hend]
      rfl
    have hfeed' : ∀ s ∈ Text.stripStart first :: (middle ++ [Text.stripEnd last]), '\n' ∉ s := by
      intro s hs hmem
      rw [List.mem_cons, List.mem_append, List.mem_singleton] at hs
      obtain rfl | hs | rfl := hs
      · exact hfeed first (by simp) ((Text.stripStart_sublist first).subset hmem)
      · exact hfeed s (by simp [hs]) hmem
      · exact hfeed last (by simp) ((Text.stripEnd_sublist last).subset hmem)
    rw [Piece.ofText, hstrip, Text.splitLines_joinLines (by simp) hfeed']
    simp [pieceOf, Text.strip_stripStart, Text.strip_stripEnd]

theorem pieces_foldl_add (d : Draft) (texts : List (List Char)) :
    ((texts.map Edit.add).foldl Draft.edit d).pieces = d.pieces ++ texts.flatMap Piece.ofText := by
  induction texts generalizing d with
  | nil => simp
  | cons s texts ih =>
    rw [List.map_cons, List.foldl_cons, ih]
    simp [Draft.edit, Draft.add]

/-- The pieces of padded lines are those of the lines. -/
theorem map_pieceOf_of_isPadded {lines texts : List (List Char)}
    (h : List.Forall₂ IsPadded lines texts) : texts.map pieceOf = lines.map pieceOf := by
  induction h with
  | nil => rfl
  | cons hline _ ih => simp [pieceOf, hline.strip_eq, ih]

theorem noFeed_of_isPadded {lines texts : List (List Char)} (h : List.Forall₂ IsPadded lines texts)
    (hlines : ∀ line ∈ lines, '\n' ∉ line) : ∀ s ∈ texts, '\n' ∉ s := by
  induction h with
  | nil => simp
  | cons hline _ ih =>
    obtain ⟨hfirst, hrest⟩ := List.forall_mem_cons.mp hlines
    exact List.forall_mem_cons.mpr ⟨hline.noFeed hfirst, ih hrest⟩

theorem toNodes?_of_pieces {d : Draft} {forest : List Node} {kept : List (List Char)} {k : Nat}
    (hforest : ∀ node ∈ forest, node.IsWritable)
    (hkept : markedAll forest = kept ++ List.replicate k [blockClose])
    (hd : d.pieces = kept.map pieceOf) : d.toNodes? = some forest := by
  have hrun := Cursor.foldlM_markedAll Cursor.start hforest
  rw [hkept, List.map_append, List.foldlM_append, ← hd] at hrun
  obtain ⟨c, hc, hclosed⟩ := Option.bind_eq_some_iff.mp hrun
  rw [Draft.toNodes?, hc, Option.map_some, ← Cursor.toNodes_foldlM_blockClose k hclosed]
  rfl

/-- A forest written with braces is read back as it is, with any spaces around its lines and any
number of the closing braces at its end left out: if its lines are added one by one, and also if
they are added together, as long as the first and the last of them can be seen. -/
theorem toNodes?_ofEdits_marked {forest : List Node} {kept texts : List (List Char)} {k : Nat}
    (offset : Nat) (hforest : ∀ node ∈ forest, node.IsWritable)
    (hkept : markedAll forest = kept ++ List.replicate k [blockClose])
    (htexts : List.Forall₂ IsPadded kept texts) :
    (Draft.ofEdits offset (texts.map .add)).toNodes? = some forest
      ∧ ∀ first last, texts.head? = some first → texts.getLast? = some last →
        Text.isVisible first = true → Text.isVisible last = true →
        (Draft.ofEdits offset [.add (Text.joinLines texts)]).toNodes? = some forest := by
  have hfeed : ∀ s ∈ texts, '\n' ∉ s := by
    apply noFeed_of_isPadded htexts
    intro line hline
    have hmarked : line ∈ markedAll forest := by
      rw [hkept]
      exact List.mem_append_left _ hline
    obtain ⟨node, hnode, hline⟩ := mem_markedAll.mp hmarked
    exact noFeed_marked (hforest node hnode) line hline
  have hpieces := map_pieceOf_of_isPadded htexts
  constructor
  · apply toNodes?_of_pieces hforest hkept
    have hread : texts.flatMap Piece.ofText = texts.map pieceOf := by
      rw [List.map_eq_flatMap]
      exact List.flatMap_congr fun s hs => ofText_eq_singleton (hfeed s hs)
    rw [Draft.ofEdits, pieces_foldl_add, List.nil_append, hread, hpieces]
  · intro first last hhead hlast hfirst hend
    apply toNodes?_of_pieces hforest hkept
    rw [← hpieces, ← ofText_joinLines hfeed hhead hlast hfirst hend]
    rfl

/-- A line, and a block without a header that holds a blank line and an empty block, whose
header looks like the end of a block. -/
def exampleForest : List Node :=
  [.line ['a'], .block [] [.line [], .block [blockClose] []]]

/-- Neither of the two blocks is closed. -/
theorem toNodes?_ofEdits_marked_unclosed :
    let texts := [[' ', ' ', 'a'], [' ', blockOpen], [' '], [blockClose, ' ', blockOpen, ' ']]
    (Draft.ofEdits 0 (texts.map .add)).toNodes? = some exampleForest
      ∧ (Draft.ofEdits 0 [.add (Text.joinLines texts)]).toNodes? = some exampleForest := by
  intro texts
  have hblank : Node.IsWritable (.line []) := .line ⟨by decide, rfl⟩ (by decide) (by decide)
  have hempty : Node.IsWritable (.block [blockClose] []) :=
    .block ⟨by decide, by decide⟩ (by simp)
  have hforest : ∀ node ∈ exampleForest, node.IsWritable := by
    simp only [exampleForest, List.forall_mem_cons, List.not_mem_nil, false_implies, implies_true,
      and_true]
    constructor
    · exact .line ⟨by decide, by decide⟩ (by decide) (by decide)
    · exact .block ⟨by decide, rfl⟩ (by simp [hblank, hempty])
  have htexts : List.Forall₂ IsPadded
      [['a'], [' ', blockOpen], [], [blockClose, ' ', blockOpen]] texts :=
    .cons (.spaces 2 0) (.cons (.spaces 0 0) (.cons (.spaces 1 0) (.cons (.spaces 0 1) .nil)))
  obtain ⟨hadds, hadd⟩ := toNodes?_ofEdits_marked (k := 2) 0 hforest rfl htexts
  exact ⟨hadds, hadd _ _ rfl rfl (by decide) (by decide)⟩

end Retrace.Outline
