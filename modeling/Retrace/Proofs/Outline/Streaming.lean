import Retrace.Outline.Draft

/-!
# Drafts read in one pass

The text of a draft needs no tree. One pass over the pieces keeps a depth: a
closing brace lowers it, the beginning of a block raises it after its header,
and a node is rendered where it stands. A tree fails to be built exactly when
some first pieces close more blocks than they open.

The pass and the tree are related through the cursor: the lines before a cursor
are those that the pass has emitted, and the open blocks count its depth.
-/

namespace Retrace.Outline

/-- One change of a draft. -/
inductive Edit where
  | add (s : List Char)
  | addNode (node : Node)
  | insertFirst (s : List Char)
  | insertNodeFirst (node : Node)
  | addBlankLine

namespace Draft

def edit (d : Draft) : Edit → Draft
  | .add s => d.add s
  | .addNode node => d.addNode node
  | .insertFirst s => d.insertFirst s
  | .insertNodeFirst node => d.insertNodeFirst node
  | .addBlankLine => d.addBlankLine

/-- The draft that some changes make of an empty one. -/
def ofEdits (offset : Nat) (edits : List Edit) : Draft := edits.foldl edit { offset }

theorem offset_foldl_edit (d : Draft) (edits : List Edit) :
    (edits.foldl edit d).offset = d.offset := by
  induction edits generalizing d with
  | nil => rfl
  | cons e edits ih =>
    rw [List.foldl_cons, ih]
    cases e <;> rfl

@[simp] theorem offset_ofEdits (offset : Nat) (edits : List Edit) :
    (ofEdits offset edits).offset = offset :=
  offset_foldl_edit _ _

end Draft

namespace Piece

/-- A text line that begins a block. -/
def opens : Piece → Bool
  | .text line => line.getLast? = some blockOpen
  | .node _ => false

/-- A text line that ends a block. -/
def closes : Piece → Bool
  | .text line => line = [blockClose]
  | .node _ => false

theorem opens_of_closes {p : Piece} (h : p.closes = true) : p.opens = false := by
  cases p with
  | node => rfl
  | text line =>
    simp only [closes, decide_eq_true_eq] at h
    subst h
    rfl

end Piece

/-- The lines of pieces, the first of which stands at a depth. -/
def stream (offset : List Char) : Nat → List Piece → List (List Char)
  | _, [] => []
  | depth, .node node :: rest => node.render offset depth ++ stream offset depth rest
  | depth, .text line :: rest =>
    if line = [blockClose] then stream offset (depth - 1) rest
    else if line.getLast? = some blockOpen then
      indented offset depth (Text.stripEnd line.dropLast) :: stream offset (depth + 1) rest
    else indented offset depth line :: stream offset depth rest

/-- The lines of open blocks before their innermost children. -/
def outerLines (offset : List Char) : List (List Node × List Char) → List (List Char)
  | [] => []
  | (before, header) :: outer =>
    outerLines offset outer ++ renderAll offset outer.length before
      ++ [indented offset outer.length header]

namespace Cursor

def depth (c : Cursor) : Nat := c.outer.length

/-- The lines before a cursor. -/
def lines (offset : List Char) (c : Cursor) : List (List Char) :=
  outerLines offset c.outer ++ renderAll offset c.depth c.nodes

/-! ## The tree of a cursor -/

theorem renderAll_finish (offset : List Char) (nodes : List Node)
    (outer : List (List Node × List Char)) :
    renderAll offset 0 (finish nodes outer)
      = outerLines offset outer ++ renderAll offset outer.length nodes := by
  induction outer generalizing nodes with
  | nil => simp [finish, outerLines]
  | cons block outer ih =>
    obtain ⟨before, header⟩ := block
    rw [finish, ih, renderAll_append, renderAll_cons]
    simp [outerLines, Node.render]

/-- Closing the open blocks adds no line. -/
theorem renderAll_toNodes (offset : List Char) (c : Cursor) :
    renderAll offset 0 c.toNodes = c.lines offset :=
  renderAll_finish offset c.nodes c.outer

/-! ## One piece -/

theorem lines_add (offset : List Char) (c : Cursor) (node : Node) :
    (c.add node).lines offset = c.lines offset ++ node.render offset c.depth := by
  simp [lines, add, depth, renderAll_append, renderAll_cons]

theorem lines_openBlock (offset : List Char) (c : Cursor) (header : List Char) :
    (c.openBlock header).lines offset = c.lines offset ++ [indented offset c.depth header] := by
  simp [lines, openBlock, depth, outerLines]

theorem lines_closeBlock? {c c' : Cursor} (h : c.closeBlock? = some c') (offset : List Char) :
    c'.lines offset = c.lines offset := by
  obtain ⟨nodes, outer⟩ := c
  cases outer with
  | nil => cases h
  | cons block outer =>
    obtain ⟨before, header⟩ := block
    cases h
    simp [lines, depth, outerLines, renderAll_append, renderAll_cons, Node.render]

theorem depth_closeBlock? {c c' : Cursor} (h : c.closeBlock? = some c') :
    c.depth = c'.depth + 1 := by
  obtain ⟨nodes, outer⟩ := c
  cases outer with
  | nil => cases h
  | cons block outer =>
    cases h
    rfl

/-- Only the end of a block that was never begun is refused. -/
theorem step_eq_none_iff (c : Cursor) (p : Piece) :
    c.step p = none ↔ p.closes = true ∧ c.depth = 0 := by
  cases p with
  | node => simp [step, Piece.closes]
  | text line =>
    by_cases hclose : line = [blockClose]
    · obtain ⟨nodes, outer⟩ := c
      cases outer <;> simp [step, Piece.closes, closeBlock?, depth, hclose]
    · cases hheader : header? line <;> simp [step, Piece.closes, hclose, hheader]

/-- A piece emits what the pass emits for it, and the depth follows. -/
theorem lines_step {c c' : Cursor} {p : Piece} (h : c.step p = some c') (offset : List Char)
    (rest : List Piece) :
    c'.lines offset ++ stream offset c'.depth rest
      = c.lines offset ++ stream offset c.depth (p :: rest) := by
  cases p with
  | node node =>
    cases h
    rw [lines_add, stream, List.append_assoc]
    rfl
  | text line =>
    simp only [step] at h
    by_cases hclose : line = [blockClose]
    · rw [if_pos hclose] at h
      rw [lines_closeBlock? h, stream, if_pos hclose, depth_closeBlock? h]
      rfl
    · rw [if_neg hclose] at h
      rw [stream, if_neg hclose]
      by_cases hopen : line.getLast? = some blockOpen
      · simp only [header?, if_pos hopen, Option.some.injEq] at h
        subst h
        rw [lines_openBlock, if_pos hopen, List.append_assoc]
        rfl
      · simp only [header?, if_neg hopen, Option.some.injEq] at h
        subst h
        rw [lines_add, if_neg hopen, List.append_assoc]
        rfl

theorem depth_step {c c' : Cursor} {p : Piece} (h : c.step p = some c') :
    c'.depth + p.closes.toNat = c.depth + p.opens.toNat := by
  cases p with
  | node node =>
    cases h
    rfl
  | text line =>
    simp only [step] at h
    by_cases hclose : line = [blockClose]
    · rw [if_pos hclose] at h
      rw [depth_closeBlock? h]
      subst hclose
      rfl
    · rw [if_neg hclose] at h
      by_cases hopen : line.getLast? = some blockOpen
      · simp only [header?, if_pos hopen, Option.some.injEq] at h
        subst h
        simp [Piece.closes, Piece.opens, hclose, hopen, openBlock, depth]
      · simp only [header?, if_neg hopen, Option.some.injEq] at h
        subst h
        simp [Piece.closes, Piece.opens, hclose, hopen, add, depth]

/-! ## All pieces -/

theorem lines_foldlM {c c' : Cursor} {pieces : List Piece}
    (h : pieces.foldlM step c = some c') (offset : List Char) :
    c'.lines offset = c.lines offset ++ stream offset c.depth pieces := by
  induction pieces generalizing c with
  | nil =>
    cases h
    simp [stream]
  | cons p rest ih =>
    obtain ⟨c₁, hstep, hrest⟩ := Option.bind_eq_some_iff.mp h
    rw [ih hrest, lines_step hstep]

/-- Some first pieces close more blocks than are open or opened by them. -/
def Overcloses (depth : Nat) (pieces : List Piece) : Prop :=
  ∃ before, before <+: pieces ∧ depth + before.countP Piece.opens < before.countP Piece.closes

theorem overcloses_nil (depth : Nat) : ¬ Overcloses depth [] := by
  rintro ⟨before, hbefore, h⟩
  rw [List.prefix_nil.mp hbefore] at h
  simp at h

theorem overcloses_cons_iff {depth depth' : Nat} {p : Piece}
    (h : depth' + p.closes.toNat = depth + p.opens.toNat) (rest : List Piece) :
    Overcloses depth (p :: rest) ↔ Overcloses depth' rest := by
  have hcount (f : Piece → Bool) (before : List Piece) :
      (p :: before).countP f = before.countP f + (f p).toNat := by
    cases hf : f p <;> simp [hf]
  constructor
  · rintro ⟨before, hbefore, hlt⟩
    cases before with
    | nil => simp at hlt
    | cons q before =>
      obtain ⟨rfl, hrest⟩ := List.cons_prefix_cons.mp hbefore
      rw [hcount, hcount] at hlt
      exact ⟨before, hrest, by omega⟩
  · rintro ⟨before, hbefore, hlt⟩
    refine ⟨p :: before, List.cons_prefix_cons.mpr ⟨rfl, hbefore⟩, ?_⟩
    rw [hcount, hcount]
    omega

theorem foldlM_step_eq_none_iff (c : Cursor) (pieces : List Piece) :
    pieces.foldlM step c = none ↔ Overcloses c.depth pieces := by
  induction pieces generalizing c with
  | nil =>
    constructor
    · intro h
      cases h
    · intro h
      exact absurd h (overcloses_nil _)
  | cons p rest ih =>
    rw [List.foldlM_cons]
    cases hstep : c.step p with
    | none =>
      obtain ⟨hclose, hdepth⟩ := (step_eq_none_iff c p).mp hstep
      constructor
      · intro _
        refine ⟨[p], by simp, ?_⟩
        simp [hclose, hdepth, Piece.opens_of_closes hclose]
      · intro _
        rfl
    | some c' =>
      rw [overcloses_cons_iff (depth_step hstep)]
      exact ih c'

end Cursor

/-- A draft has a tree and a text unless some first pieces close more blocks than they open,
and its text is then what one pass over the pieces emits. -/
theorem text?_ofEdits (offset : Nat) (edits : List Edit) :
    let d := Draft.ofEdits offset edits
    (d.toNodes? = none ↔
      ∃ before, before <+: d.pieces ∧ before.countP Piece.opens < before.countP Piece.closes)
    ∧ (d.text? = none ↔ d.toNodes? = none)
    ∧ (d.text? = none
      ∨ d.text? = some (Text.joinLines (stream (List.replicate offset ' ') 0 d.pieces))) := by
  intro d
  refine ⟨?_, by simp [Draft.text?], ?_⟩
  · rw [Draft.toNodes?, Option.map_eq_none_iff, Cursor.foldlM_step_eq_none_iff]
    simp [Cursor.Overcloses, Cursor.depth, Cursor.start]
  · rw [Draft.text?, Draft.toNodes?]
    cases hc : d.pieces.foldlM Cursor.step Cursor.start with
    | none => exact .inl rfl
    | some c =>
      right
      have hlines := Cursor.lines_foldlM hc (List.replicate offset ' ')
      simp only [Option.map_some, textOf, Cursor.renderAll_toNodes, d, Draft.offset_ofEdits, hlines]
      simp [Cursor.lines, Cursor.start, Cursor.depth, outerLines]

end Retrace.Outline
