import Retrace.Outline.Draft
import Retrace.Proofs.Text.View

/-!
# Outlines in every view

Lines and headers of which the same code points are seen in every inert view make an outline of
which the same can be said. Whether a line opens or closes a block is the same in every view, too.
-/

namespace Retrace.Outline

open Text

variable {text : InertView → List Char} {nodes nodes' : InertView → List Node}

/-! ## Rendering -/

theorem isShown_indented (offset : List Char) (depth : Int) (h : IsShown text) :
    IsShown fun v => indented offset depth (text v) := by
  obtain hnil | hne := @IsShown.eq_or_ne text [] rfl h
  · simp only [indented, hnil, if_true]
    exact .const []
  · simp only [indented, if_neg (hne _)]
    exact (IsShown.const _).append h

/-- However the nodes are rendered, their lines have the same code points in every inert view. -/
def AreShown (nodes : InertView → List Node) : Prop :=
  ∀ offset depth, Each IsShown fun v => renderAll offset depth (nodes v)

namespace AreShown

theorem nil : AreShown fun _ => [] := by
  intro offset depth
  simp only [renderAll_nil]
  exact .nil

theorem append (h : AreShown nodes) (h' : AreShown nodes') :
    AreShown fun v => nodes v ++ nodes' v := by
  intro offset depth
  simp only [renderAll_append]
  exact (h offset depth).append (h' offset depth)

theorem line (h : IsShown text) : AreShown fun v => [.line (text v)] := by
  intro offset depth
  simp only [renderAll_cons, renderAll_nil, Node.render, List.append_nil]
  exact Each.nil.cons (isShown_indented offset depth h)

theorem block (hheader : IsShown text) (h : AreShown nodes) :
    AreShown fun v => [.block (text v) (nodes v)] := by
  intro offset depth
  simp only [renderAll_cons, renderAll_nil, Node.render, List.append_nil]
  exact (h offset (depth + 1)).cons (isShown_indented offset depth hheader)

theorem const (nodes : List Node) : AreShown fun _ => nodes :=
  fun _ _ => .const fun line _ => .const line

theorem textOf (offset : Nat) (h : AreShown nodes) : IsShown fun v => textOf offset (nodes v) :=
  .intercalate ['\n'] (h _ 0)

end AreShown

/-! ## Reading lines -/

theorem each_splitLines (h : IsShown text) : Each IsShown fun v => splitLines (text v) := by
  obtain ⟨points, h⟩ := h
  have hother : ∀ c, IsInert c → decide (c = '\n') = false := by
    intro c hc
    rw [decide_eq_false_iff_not]
    rintro rfl
    exact absurd hc.1 (by decide)
  obtain ⟨q, hq⟩ := InertView.exists_test hother
  simp only [h, InertView.shown]
  clear h
  induction points with
  | nil => exact .const fun line _ => .const line
  | cons n points ih =>
    have hchar : IsShown fun v => [@viewed v.toView n] := .shown [n]
    have htest (v : InertView) : @viewed v.toView n = '\n' ↔ q n = true := by
      rw [← hq v, decide_eq_true_eq]
    -- Half a pair is no line feed, so the line it is in ends at the same place in every view.
    simp only [List.map_cons, splitLines, htest]
    split
    · exact ih.cons (.const [])
    · obtain ⟨families, hshown, hlines⟩ := ih
      simp only [hlines]
      cases families with
      | nil => exact Each.nil.cons hchar
      | cons line families =>
        obtain ⟨hline, hfamilies⟩ := List.forall_mem_cons.mp hshown
        exact ⟨(fun v => @viewed v.toView n :: line v) :: families,
          List.forall_mem_cons.mpr ⟨hchar.append hline, hfamilies⟩, fun _ => rfl⟩

/-- The nodes at a cursor, and those before each open block, with its header. -/
structure CursorIsShown (c : InertView → Cursor) : Prop where
  nodes : AreShown fun v => (c v).nodes
  outer : Each (fun p => AreShown (fun v => (p v).1) ∧ IsShown fun v => (p v).2)
    fun v => (c v).outer

namespace CursorIsShown

variable {c : InertView → Cursor}

theorem start : CursorIsShown fun _ => Cursor.start := ⟨.nil, .nil⟩

theorem add {node : InertView → Node} (h : CursorIsShown c) (hnode : AreShown fun v => [node v]) :
    CursorIsShown fun v => (c v).add (node v) :=
  ⟨h.nodes.append hnode, h.outer⟩

theorem openBlock (h : CursorIsShown c) (hheader : IsShown text) :
    CursorIsShown fun v => (c v).openBlock (text v) :=
  ⟨.nil, h.outer.cons ⟨h.nodes, hheader⟩⟩

theorem closeBlock? (h : CursorIsShown c) :
    (∀ v, (c v).closeBlock? = none)
      ∨ ∃ next, CursorIsShown next ∧ ∀ v, (c v).closeBlock? = some (next v) := by
  obtain ⟨families, hshown, houter⟩ := h.outer
  simp only [Cursor.closeBlock?, houter]
  cases families with
  | nil => exact .inl fun _ => rfl
  | cons p families =>
    obtain ⟨⟨hbefore, hheader⟩, hfamilies⟩ := List.forall_mem_cons.mp hshown
    refine .inr ⟨_, ⟨?_, ?_⟩, fun _ => rfl⟩
    · exact hbefore.append (.block hheader h.nodes)
    · exact ⟨families, hfamilies, fun _ => rfl⟩

theorem step (h : CursorIsShown c) (hshown : IsShown text) :
    (∀ v, (c v).step (.text (text v)) = none)
      ∨ ∃ next, CursorIsShown next ∧ ∀ v, (c v).step (.text (text v)) = some (next v) := by
  obtain hclose | hclose := @IsShown.eq_or_ne text [blockClose] (by decide) hshown
  · simp only [Cursor.step, hclose, if_true]
    exact h.closeBlock?
  · simp only [Cursor.step, header?, if_neg (hclose _)]
    obtain hopen | hopen := @IsShown.getLast?_eq_or_ne text blockOpen (by decide) hshown
    · simp only [hopen, if_true]
      have hheader : IsShown fun v => stripEnd (text v).dropLast :=
        (hshown.dropLast.reverse.dropWhile fun _ hc => hc.2).reverse
      exact .inr ⟨_, h.openBlock hheader, fun _ => rfl⟩
    · simp only [if_neg (hopen _)]
      exact .inr ⟨_, h.add (.line hshown), fun _ => rfl⟩

theorem finish {outer : InertView → List (List Node × List Char)} (h : AreShown nodes)
    (houter : Each (fun p => AreShown (fun v => (p v).1) ∧ IsShown fun v => (p v).2) outer) :
    AreShown fun v => Cursor.finish (nodes v) (outer v) := by
  obtain ⟨families, hshown, houter⟩ := houter
  simp only [houter]
  clear houter
  induction families generalizing nodes with
  | nil => exact h
  | cons p families ih =>
    obtain ⟨⟨hbefore, hheader⟩, hfamilies⟩ := List.forall_mem_cons.mp hshown
    exact ih (hbefore.append (.block hheader h)) hfamilies

theorem foldlM (h : CursorIsShown c) {lines : InertView → List (List Char)}
    (hlines : Each IsShown lines) :
    (∀ v, ((lines v).map Piece.text).foldlM Cursor.step (c v) = none)
      ∨ ∃ next, CursorIsShown next
        ∧ ∀ v, ((lines v).map Piece.text).foldlM Cursor.step (c v) = some (next v) := by
  obtain ⟨families, hshown, hlines⟩ := hlines
  simp only [hlines]
  clear hlines
  induction families generalizing c with
  | nil => exact .inr ⟨c, h, fun _ => rfl⟩
  | cons line families ih =>
    obtain ⟨hline, hfamilies⟩ := List.forall_mem_cons.mp hshown
    simp only [List.map_cons, List.foldlM_cons]
    obtain hnone | ⟨next, hnext, hstep⟩ := h.step hline
    · exact .inl fun v => by rw [hnone]; rfl
    · simp only [hstep]
      exact ih hnext hfamilies

end CursorIsShown

/-- A draft that is a text is read in every inert view, or in none. -/
theorem text?_add (h : IsShown text) :
    (∀ v, (({} : Draft).add (text v)).text? = none)
      ∨ ∃ written, IsShown written ∧ ∀ v, (({} : Draft).add (text v)).text? = some (written v) := by
  have hlines : Each IsShown fun v => (splitLines (strip (text v))).map strip :=
    (each_splitLines h.strip).map fun _ hline => hline.strip
  have hpieces (v : InertView) : (({} : Draft).add (text v)).pieces
      = ((splitLines (strip (text v))).map strip).map Piece.text := by
    rw [List.map_map]
    rfl
  simp only [Draft.text?, Draft.toNodes?, hpieces]
  obtain hnone | ⟨next, hnext, hread⟩ := CursorIsShown.start.foldlM hlines
  · exact .inl fun v => by rw [hnone]; rfl
  · refine .inr ⟨_, (CursorIsShown.finish hnext.nodes hnext.outer).textOf 0, fun v => ?_⟩
    rw [hread]
    rfl

end Retrace.Outline
