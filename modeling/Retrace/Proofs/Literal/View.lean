import Retrace.Proofs.Literal.Canonical
import Retrace.Proofs.Text.View

/-!
# Literals in every view

A literal copies the halves of surrogate pairs in the texts that it is made of, and whether there
is one does not depend on them. So options can be written in every inert view alike.
-/

namespace Retrace.Literal

open Text

variable {text : InertView → List Char}

/-! ## Texts -/

theorem escapeChar_of_isInert {c : Char} (h : IsInert c) : escapeChar .quotation c = [c] := by
  have hcontrol : ¬ c.toNat < 0x20 := by
    have := h.1
    omega
  have hmark : ¬ ((decide (c = '\\') || decide (c = Mark.quotation.char)) = true) := by
    simp [h.ne (by decide : '\\'.toNat < 0x80), h.ne (by decide : Mark.quotation.char.toNat < 0x80)]
  have hletter : controlLetter? c = none := by
    rw [controlLetter?, if_neg (h.ne (by decide)), if_neg (h.ne (by decide)),
      if_neg (h.ne (by decide)), if_neg (h.ne (by decide)), if_neg (h.ne (by decide))]
  rw [escapeChar, if_neg hmark, hletter]
  exact if_neg hcontrol

theorem isShown_quote (h : IsShown text) : IsShown fun v => quote (text v) := by
  simp only [quote_eq]
  exact ((h.flatMap fun _ => escapeChar_of_isInert).append (.const _)).cons _

theorem isShown_commaSeparated {texts : InertView → List (List Char)} (h : Each IsShown texts) :
    IsShown fun v => commaSeparated (texts v) := .intercalate _ h

/-! ## Data -/

/-- Only texts that hold halves depend on the view. -/
theorem viewed_eq_self_or (d : Datum) :
    (∀ v : InertView, @Datum.viewed v.toView d = d)
      ∨ ∃ points, ∀ v : InertView,
        @Datum.viewed v.toView d = .text (String.ofList (v.shown points)) := by
  cases d with
  | brokenText points => exact .inr ⟨points, fun _ => rfl⟩
  | _ => exact .inl fun _ => rfl

theorem isShown_plain (d : Datum) :
    IsShown fun v => (@Datum.viewed v.toView d).plain.toList := by
  obtain hsame | ⟨points, hshown⟩ := viewed_eq_self_or d
  · simp only [hsame]
    exact .const _
  · simp only [hshown]
    exact ⟨points, fun _ => String.toList_ofList⟩

theorem isUniform_keyText (key : Datum) :
    IsUniform IsShown fun v => @keyText v.toView key := by
  simp only [keyText]
  split
  · exact .ok (isShown_plain key)
  · exact .error _

mutual

/-- The literal of any data has the same code points in every inert view. -/
theorem isUniform_ofDatum (d : Datum) : IsUniform IsShown fun v => @ofDatum v.toView d := by
  cases d with
  | brokenText points => exact .ok (isShown_quote (.shown points))
  | list items =>
    simp only [ofDatum]
    apply (isUniform_ofData items).bind
    intro texts htexts
    exact .ok (((isShown_commaSeparated htexts).append (.const _)).cons _)
  | tuple items =>
    simp only [ofDatum]
    apply (isUniform_ofData items).bind
    intro texts htexts
    obtain ⟨length, hlength⟩ := htexts.length
    simp only [hlength]
    exact .ok (((isShown_commaSeparated htexts).append (.const _)).cons _)
  | dict entries | orderedDict entries =>
    simp only [ofDatum]
    apply (isUniform_ofEntries entries).bind
    intro texts htexts
    exact .ok (((IsShown.intercalate [','] htexts).append (.const _)).cons _)
  | _ =>
    simp only [ofDatum]
    exact .const _ IsShown.const

theorem isUniform_ofData (items : List Datum) :
    IsUniform (Each IsShown) fun v => @ofData v.toView items := by
  cases items with
  | nil => exact .ok .nil
  | cons d items =>
    simp only [ofData]
    apply (isUniform_ofDatum d).bind
    intro item hitem
    apply (isUniform_ofData items).bind
    intro others hothers
    exact .ok (hothers.cons hitem)

theorem isUniform_ofEntries (entries : List (Datum × Datum)) :
    IsUniform (Each IsShown) fun v => @ofEntries v.toView entries := by
  match entries with
  | [] => exact .ok .nil
  | (key, d) :: entries =>
    simp only [ofEntries]
    apply (isUniform_keyText key).bind
    intro name hname
    apply (isUniform_ofDatum d).bind
    intro item hitem
    apply (isUniform_ofEntries entries).bind
    intro others hothers
    exact .ok (hothers.cons ((isShown_quote hname).append (hitem.cons ':')))

end

/-! ## Options -/

namespace Options

theorem isShown_join (layout : Layout) {arguments : InertView → List (List Char)}
    (h : Each IsShown arguments) : IsShown fun v => layout.join (arguments v) := by
  have hjoined := IsShown.intercalate layout.separator h
  obtain ⟨families, hshown, h⟩ := h
  simp only [h] at hjoined ⊢
  cases families with
  | nil => exact .const []
  | cons argument families => exact (IsShown.const _).append hjoined

theorem isUniform_item (layout : Layout) (o : String × Datum) :
    IsUniform IsShown fun v => @item v.toView layout o := by
  simp only [item]
  apply (isUniform_ofDatum o.2).bind
  intro value hvalue
  apply IsUniform.ok
  split
  · exact (IsShown.const _).append hvalue
  · exact (IsShown.const _).append (hvalue.cons '=')

/-- Options have the same code points in every inert view. -/
theorem isUniform_write (layout : Layout) (options : Options) :
    IsUniform IsShown fun v => @write v.toView layout options := by
  simp only [write_eq_join]
  exact (IsUniform.mapM (isUniform_item layout) options.canonical).map
    fun arguments => isShown_join layout

end Options

end Retrace.Literal
