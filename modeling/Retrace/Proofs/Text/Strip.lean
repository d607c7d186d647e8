import Mathlib.Data.List.TakeWhile
import Retrace.Proofs.Text.Join
import Retrace.Proofs.Text.OneLine
import Retrace.Text.Word

/-!
# Stripped texts

Stripping takes the white space at the ends of a text away and keeps all that is
between. So white space around a text makes no difference to it, and stripping a
second time changes nothing. If the first and the last line of a text are visible,
stripping the text strips these two lines and leaves the lines between as they are.
-/

namespace Retrace.Text

variable {s t : List Char}

/-- A text of white space alone. -/
def IsBlankText (s : List Char) : Prop := ∀ c ∈ s, isBlank c = true

theorem isVisible_eq_false_iff : isVisible s = false ↔ IsBlankText s := by
  simp [isVisible, IsBlankText]

theorem isBlankText_replicate (n : Nat) : IsBlankText (List.replicate n ' ') := by
  intro c hc
  rw [List.eq_of_mem_replicate hc]
  exact isBlank_space

/-- Of two tables without a common code point, a character is in one at most. -/
theorem inRanges_eq_false_of_apart {table others : List (Nat × Nat)} {c : Char}
    (hapart : ∀ r ∈ table, ∀ other ∈ others, r.2 < other.1 ∨ other.2 < r.1)
    (h : inRanges table c = true) : inRanges others c = false := by
  obtain ⟨r, hr, hlow, hhigh⟩ := inRanges_eq_true_iff.mp h
  rw [Bool.eq_false_iff, Ne, inRanges_eq_true_iff]
  rintro ⟨other, hother, hlow', hhigh'⟩
  have := hapart r hr other hother
  omega

theorem isBlank_eq_false_of_isWord {c : Char} (h : isWord c = true) : isBlank c = false :=
  inRanges_eq_false_of_apart (by decide +kernel) h

/-! ## One end -/

theorem stripStart_append_of_isBlankText (h : IsBlankText s) (t : List Char) :
    stripStart (s ++ t) = stripStart t :=
  List.dropWhile_append_of_pos h

theorem stripStart_append_of_isVisible (h : isVisible s = true) (t : List Char) :
    stripStart (s ++ t) = stripStart s ++ t := by
  induction s with
  | nil => cases h
  | cons c s ih =>
    by_cases hc : isBlank c = true
    · have hs : isVisible s = true := by simpa [isVisible, hc] using h
      simpa [stripStart, hc] using ih hs
    · simp [stripStart, hc]

theorem stripEnd_append_of_isBlankText (s : List Char) (h : IsBlankText t) :
    stripEnd (s ++ t) = stripEnd s := by
  have hreverse : IsBlankText t.reverse := fun c hc => h c (List.mem_reverse.mp hc)
  rw [stripEnd, List.reverse_append]
  exact congrArg List.reverse (stripStart_append_of_isBlankText hreverse s.reverse)

theorem stripEnd_append_of_isVisible (s : List Char) (h : isVisible t = true) :
    stripEnd (s ++ t) = s ++ stripEnd t := by
  have hreverse : isVisible t.reverse = true := by rw [isVisible, List.any_reverse]; exact h
  have hstart := congrArg List.reverse (stripStart_append_of_isVisible hreverse s.reverse)
  rw [List.reverse_append, List.reverse_reverse] at hstart
  rw [stripEnd, List.reverse_append]
  exact hstart

/-! ## Both ends -/

theorem strip_of_isBlankText (h : IsBlankText s) : strip s = [] := by
  have hstart : stripStart s = [] := List.dropWhile_eq_nil_iff.mpr h
  rw [strip, hstart]
  rfl

theorem isBlankText_nil : IsBlankText [] := nofun

/-- White space around a text is stripped, whatever the text is. -/
theorem strip_padded {before after : List Char} (hbefore : IsBlankText before)
    (hafter : IsBlankText after) (s : List Char) : strip (before ++ s ++ after) = strip s := by
  rw [List.append_assoc, strip, stripStart_append_of_isBlankText hbefore]
  by_cases hs : isVisible s = true
  · rw [stripStart_append_of_isVisible hs, stripEnd_append_of_isBlankText _ hafter]
    rfl
  · have hblank : IsBlankText s := isVisible_eq_false_iff.mp (Bool.eq_false_iff.mpr hs)
    rw [stripStart_append_of_isBlankText hblank, strip_of_isBlankText hblank]
    exact strip_of_isBlankText hafter

theorem exists_eq_append_stripStart (s : List Char) :
    ∃ before, IsBlankText before ∧ s = before ++ stripStart s :=
  ⟨s.takeWhile isBlank, fun _ hc => List.mem_takeWhile_imp hc, List.takeWhile_append_dropWhile.symm⟩

theorem exists_eq_stripEnd_append (s : List Char) :
    ∃ after, IsBlankText after ∧ s = stripEnd s ++ after := by
  obtain ⟨before, hbefore, heq⟩ := exists_eq_append_stripStart s.reverse
  refine ⟨before.reverse, fun c hc => hbefore c (List.mem_reverse.mp hc), ?_⟩
  have hreverse := congrArg List.reverse heq
  rw [List.reverse_reverse, List.reverse_append] at hreverse
  exact hreverse

theorem strip_stripStart (s : List Char) : strip (stripStart s) = strip s := by
  obtain ⟨before, hbefore, heq⟩ := exists_eq_append_stripStart s
  have hpadded := strip_padded hbefore isBlankText_nil (stripStart s)
  rw [List.append_nil, ← heq] at hpadded
  exact hpadded.symm

theorem strip_stripEnd (s : List Char) : strip (stripEnd s) = strip s := by
  obtain ⟨after, hafter, heq⟩ := exists_eq_stripEnd_append s
  have hpadded := strip_padded isBlankText_nil hafter (stripEnd s)
  rw [List.nil_append, ← heq] at hpadded
  exact hpadded.symm

@[simp] theorem strip_strip (s : List Char) : strip (strip s) = strip s := by
  conv_lhs => rw [strip.eq_def s]
  rw [strip_stripEnd, strip_stripStart]

theorem strip_eq_self {c d : Char} (hfirst : s.head? = some c) (hc : isBlank c = false)
    (hlast : s.getLast? = some d) (hd : isBlank d = false) : strip s = s := by
  have hstart : stripStart s = s := by
    obtain ⟨rest, rfl⟩ := List.head?_eq_some_iff.mp hfirst
    exact List.dropWhile_cons_of_neg (by simp [hc])
  obtain ⟨front, rfl⟩ := List.getLast?_eq_some_iff.mp hlast
  rw [strip, hstart, stripEnd, List.reverse_append]
  simp [hd]

theorem stripStart_sublist (s : List Char) : (stripStart s).Sublist s := List.dropWhile_sublist _

theorem stripEnd_sublist (s : List Char) : (stripEnd s).Sublist s := by
  have hreverse : (stripStart s.reverse).reverse.Sublist s.reverse.reverse :=
    (stripStart_sublist s.reverse).reverse
  rwa [List.reverse_reverse] at hreverse

theorem strip_subset (s : List Char) : strip s ⊆ s :=
  ((stripEnd_sublist _).trans (stripStart_sublist s)).subset

/-- What stripping leaves as it is, is stripped at neither end. -/
theorem stripStart_of_strip (h : strip s = s) : stripStart s = s := by
  have hsublist : s.Sublist (stripStart s) := by
    conv_lhs => rw [← h]
    exact stripEnd_sublist _
  exact (stripStart_sublist s).antisymm hsublist

theorem stripEnd_of_strip (h : strip s = s) : stripEnd s = s := by
  rwa [strip, stripStart_of_strip h] at h

/-! ## Lines -/

theorem stripStart_joinLines {line : List Char} (h : isVisible line = true)
    (lines : List (List Char)) :
    stripStart (joinLines (line :: lines)) = joinLines (stripStart line :: lines) := by
  cases lines with
  | nil => rw [joinLines_singleton, joinLines_singleton]
  | cons next lines =>
    rw [joinLines_cons_cons, joinLines_cons_cons, stripStart_append_of_isVisible h]

theorem stripEnd_joinLines {line : List Char} (lines : List (List Char))
    (h : isVisible line = true) :
    stripEnd (joinLines (lines ++ [line])) = joinLines (lines ++ [stripEnd line]) := by
  by_cases hlines : lines = []
  · rw [hlines, List.nil_append, List.nil_append, joinLines_singleton, joinLines_singleton]
  · rw [joinLines_append hlines (by simp), joinLines_append hlines (by simp),
      joinLines_singleton, joinLines_singleton, List.append_cons _ _ line,
      List.append_cons _ _ (stripEnd line)]
    exact stripEnd_append_of_isVisible _ h

theorem splitLines_joinLines {lines : List (List Char)} (hne : lines ≠ [])
    (h : ∀ line ∈ lines, '\n' ∉ line) : splitLines (joinLines lines) = lines := by
  induction lines with
  | nil => exact absurd rfl hne
  | cons line lines ih =>
    obtain ⟨hline, hlines⟩ := List.forall_mem_cons.mp h
    cases lines with
    | nil => rw [joinLines_singleton, splitLines_of_not_mem hline]
    | cons next lines =>
      rw [joinLines_cons_cons, splitLines_append_newline line hline, ih (by simp) hlines]

end Retrace.Text
