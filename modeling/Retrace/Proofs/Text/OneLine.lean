import Mathlib.Data.List.Basic
import Retrace.Proofs.Text.Join
import Retrace.Text.Blank

/-!
# Physical lines

A line break is a line feed or a carriage return. A text without any is one
line; joining such texts and cutting at the breaks are inverse to each other.
-/

namespace Retrace.Text

def isBreak (c : Char) : Bool := c = '\n' || c = '\r'

/-- A text without line breaks. -/
def isOneLine (s : List Char) : Bool := s.all fun c => !isBreak c

/-- A text that does not only consist of white space. -/
def isVisible (s : List Char) : Bool := s.any fun c => !isBlank c

/-- The lines between the breaks. A text without characters has none. -/
def physicalLines (s : List Char) : List (List Char) :=
  if s = [] then [] else s.splitOnP isBreak

section

variable {s t : List Char}

@[simp] theorem isOneLine_nil : isOneLine [] = true := rfl

@[simp] theorem isOneLine_cons (c : Char) (s : List Char) :
    isOneLine (c :: s) = (!isBreak c && isOneLine s) := rfl

@[simp] theorem isOneLine_append (s t : List Char) :
    isOneLine (s ++ t) = (isOneLine s && isOneLine t) :=
  List.all_append

theorem isOneLine_iff : isOneLine s = true ↔ ∀ c ∈ s, isBreak c = false := by
  simp [isOneLine]

theorem isOneLine_of_subset (hs : s ⊆ t) (h : isOneLine t = true) : isOneLine s = true := by
  rw [isOneLine_iff] at h ⊢
  intro c hc
  exact h c (hs hc)

/-- Line breaks are control characters. -/
theorem isOneLine_of_not_control (h : ∀ c ∈ s, 0x20 ≤ c.toNat) : isOneLine s = true := by
  rw [isOneLine_iff]
  intro c hc
  have hfeed : c ≠ '\n' := by
    rintro rfl
    exact absurd (h _ hc) (by decide)
  have hreturn : c ≠ '\r' := by
    rintro rfl
    exact absurd (h _ hc) (by decide)
  simp [isBreak, hfeed, hreturn]

theorem isOneLine_flatMap {α : Type} {l : List α} {f : α → List Char}
    (h : ∀ a ∈ l, isOneLine (f a) = true) : isOneLine (l.flatMap f) = true := by
  rw [isOneLine_iff]
  intro c hc
  obtain ⟨a, ha, hc⟩ := List.mem_flatMap.mp hc
  exact isOneLine_iff.mp (h a ha) c hc

theorem isOneLine_intercalate {separator : List Char} {texts : List (List Char)}
    (hseparator : isOneLine separator = true) (h : ∀ t ∈ texts, isOneLine t = true) :
    isOneLine (separator.intercalate texts) = true := by
  rw [isOneLine_iff] at hseparator ⊢
  intro c hc
  obtain hc | ⟨t, ht, hc⟩ := mem_intercalate hc
  · exact hseparator c hc
  · exact isOneLine_iff.mp (h t ht) c hc

@[simp] theorem isVisible_append (s t : List Char) :
    isVisible (s ++ t) = (isVisible s || isVisible t) :=
  List.any_append

theorem ne_nil_of_isVisible (h : isVisible s = true) : s ≠ [] := by
  rintro rfl
  cases h

end

/-! ## Joined lines -/

theorem splitOnP_joinLines {lines : List (List Char)} (hne : lines ≠ [])
    (h : ∀ l ∈ lines, isOneLine l = true) : (joinLines lines).splitOnP isBreak = lines := by
  induction lines with
  | nil => exact absurd rfl hne
  | cons l lines ih =>
    obtain ⟨hl, hlines⟩ := List.forall_mem_cons.mp h
    have hone : l.splitOnP isBreak = [l] := List.splitOnP_eq_singleton (isOneLine_iff.mp hl)
    cases lines with
    | nil => rw [joinLines_singleton, hone]
    | cons m lines =>
      rw [joinLines_cons_cons, List.splitOnP_append_cons _ _ (by decide), hone,
        ih (by simp) hlines]
      rfl

theorem joinLines_ne_nil {lines : List (List Char)} (hne : lines ≠ []) (h : ∀ l ∈ lines, l ≠ []) :
    joinLines lines ≠ [] := by
  obtain ⟨l, lines, rfl⟩ := List.exists_cons_of_ne_nil hne
  have hl : l ≠ [] := h l (by simp)
  cases lines with
  | nil => simpa using hl
  | cons m lines =>
    rw [joinLines_cons_cons]
    simp

/-- Lines can be read back if there are any characters in them, or breaks between them. -/
theorem physicalLines_joinLines_of_ne_nil {lines : List (List Char)}
    (hone : ∀ l ∈ lines, isOneLine l = true) (hne : joinLines lines ≠ []) :
    physicalLines (joinLines lines) = lines := by
  have hlines : lines ≠ [] := by
    rintro rfl
    exact hne rfl
  rw [physicalLines, if_neg hne, splitOnP_joinLines hlines hone]

theorem physicalLines_joinLines {lines : List (List Char)} (hone : ∀ l ∈ lines, isOneLine l = true)
    (hne : ∀ l ∈ lines, l ≠ []) : physicalLines (joinLines lines) = lines := by
  by_cases hlines : lines = []
  · rw [hlines]
    rfl
  · exact physicalLines_joinLines_of_ne_nil hone (joinLines_ne_nil hlines hne)

end Retrace.Text
