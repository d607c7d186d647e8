import Retrace.Text.Lines

/-!
# Joined texts

Between the texts of one list and those of another stands one separator more,
if there are texts on both sides.
-/

namespace Retrace.Text

theorem intercalate_append {sep : List Char} {xs ys : List (List Char)} (hx : xs ≠ [])
    (hy : ys ≠ []) :
    sep.intercalate (xs ++ ys) = sep.intercalate xs ++ sep ++ sep.intercalate ys := by
  induction xs with
  | nil => exact absurd rfl hx
  | cons x xs ih =>
    cases xs with
    | nil => simp [List.intercalate_cons_of_ne_nil hy]
    | cons z xs =>
      have hne : z :: (xs ++ ys) ≠ [] := by simp
      rw [List.cons_append, List.cons_append, List.intercalate_cons_cons,
        ← List.cons_append, ih (by simp), List.intercalate_cons_cons]
      simp

theorem mem_intercalate {sep : List Char} {texts : List (List Char)} {c : Char}
    (h : c ∈ sep.intercalate texts) : c ∈ sep ∨ ∃ t ∈ texts, c ∈ t := by
  induction texts with
  | nil => cases h
  | cons t texts ih =>
    cases texts with
    | nil => exact .inr ⟨t, by simp, by simpa using h⟩
    | cons u texts =>
      rw [List.intercalate_cons_cons] at h
      obtain (hc | hc) | hc := by simpa only [List.mem_append] using h
      · exact .inr ⟨t, by simp, hc⟩
      · exact .inl hc
      · exact (ih hc).imp_right fun ⟨v, hv, hcv⟩ => ⟨v, List.mem_cons_of_mem t hv, hcv⟩

theorem map_intercalate (f : Char → Char) (sep : List Char) (texts : List (List Char)) :
    (sep.intercalate texts).map f = (sep.map f).intercalate (texts.map (List.map f)) := by
  induction texts with
  | nil => rfl
  | cons t texts ih =>
    cases texts with
    | nil => simp
    | cons u texts =>
      simp only [List.map_cons] at ih ⊢
      rw [List.intercalate_cons_cons, List.intercalate_cons_cons, ← ih]
      simp

theorem joinLines_append {a b : List (List Char)} (ha : a ≠ []) (hb : b ≠ []) :
    joinLines (a ++ b) = joinLines a ++ '\n' :: joinLines b := by
  rw [joinLines, intercalate_append ha hb, List.append_assoc]
  rfl

/-- A text of several lines, put between others, is these lines between them. -/
theorem joinLines_joinLines {before lines after : List (List Char)} (hbefore : before ≠ [])
    (hlines : lines ≠ []) (hafter : after ≠ []) :
    joinLines (before ++ [joinLines lines] ++ after) = joinLines (before ++ lines ++ after) := by
  have hone : [joinLines lines] ≠ [] := List.cons_ne_nil _ _
  rw [joinLines_append (List.append_ne_nil_of_right_ne_nil _ hone) hafter,
    joinLines_append (List.append_ne_nil_of_right_ne_nil _ hlines) hafter,
    joinLines_append hbefore hone, joinLines_append hbefore hlines, joinLines_singleton]

end Retrace.Text
