import Mathlib.Data.Nat.Find
import Retrace.Proofs.Locator.Part

/-!
# A selector is split in one way

A selector is its segments with a separator between each two of them, so nothing of
it is lost. The separators are those that stand outside quotes, taken from the left:
of two that overlap the first one separates, and what is left of the second belongs
to a segment. This leaves one splitting for every selector, whether its quotes are
closed or not, and the parts are read off it.
-/

namespace Retrace.Locator

/-- Of the separators in a segment and in what is read behind it, none that starts outside quotes
starts within the segment. -/
def IsFirst (segment behind : List Char) : Prop :=
  ∀ before after, segment ++ behind = before ++ separator ++ after →
    quoteAfter none before = none → segment.length ≤ before.length

/-- The segments of a selector, one more than there are separators between them. -/
structure IsSplitting (selector : List Char) (pieces : List (List Char)) : Prop where
  ne_nil : pieces ≠ []
  joined : separator.intercalate pieces = selector
  outside : ∀ front back, pieces = front ++ back → front ≠ [] → back ≠ [] →
    quoteAfter none (separator.intercalate front) = none
  first : ∀ front segment back, pieces = front ++ segment :: back →
    IsFirst segment (if back = [] then [] else separator)

section

variable {selector segment behind next : List Char} {pieces : List (List Char)}

/-! ## One segment -/

theorem isFirst_nil_iff : IsFirst segment [] ↔ IsWhole none segment := by
  rw [IsFirst, List.append_nil]
  constructor
  · intro h before after heq hclosed
    have hle := h before after heq hclosed
    simp only [heq, separator, List.length_append, List.length_cons] at hle
    omega
  · intro h before after heq hclosed
    exact absurd hclosed (h before after heq)

theorem IsFirst.isWhole (h : IsFirst segment separator) : IsWhole none segment := by
  intro before after heq hclosed
  have hle := h before (after ++ separator) (by simp [heq]) hclosed
  simp only [heq, separator, List.length_append, List.length_cons] at hle
  omega

/-- A segment that ended in all of a separator but its last space would take that space from the
separator behind it. -/
theorem IsFirst.not_seam (h : IsFirst segment separator)
    (hclosed : quoteAfter none segment = none) : ¬ seam <:+ segment := by
  rintro ⟨front, rfl⟩
  have hfront : quoteAfter none front ≠ none := by
    intro hnone
    have hle := h front ['>', '>', ' '] (by simp [seam, separator]) hnone
    simp only [seam, List.length_append, List.length_cons] at hle
    omega
  have hopen : ∀ mark ∈ (none : Option Char), isQuoteMark mark = true := by simp
  have hseam : ∀ c ∈ seam, isQuoteMark c = false ∧ c ≠ '\\' := by simp [seam, isQuoteMark]
  exact quoteAfter_append_of_ne_none hopen hfront hseam hclosed

theorem segments_cut (hfirst : IsFirst segment separator) (hclosed : quoteAfter none segment = none)
    (behind : List Char) :
    segments none (segment ++ separator ++ behind) = segment :: segments none behind := by
  rw [segments_append_separator none segment behind hclosed (hfirst.not_seam hclosed),
    segments_of_isWhole hfirst.isWhole]
  rfl

/-- Quotes are followed behind a separator as if nothing had been before it. -/
theorem quoteAfter_cut (hclosed : quoteAfter none segment = none) (behind : List Char) :
    quoteAfter none (segment ++ separator ++ behind) = quoteAfter none behind := by
  rw [List.append_assoc, quoteAfter_append hclosed]
  rfl

theorem exists_isFirst (h : ¬ IsWhole none selector) : ∃ segment behind,
    selector = segment ++ separator ++ behind ∧ quoteAfter none segment = none
      ∧ IsFirst segment separator := by
  classical
  have hfound : ∃ n before after, before.length = n ∧ selector = before ++ separator ++ after
      ∧ quoteAfter none before = none := by
    simpa [IsWhole] using h
  obtain ⟨segment, behind, hlength, heq, hclosed⟩ := Nat.find_spec hfound
  refine ⟨segment, behind, heq, hclosed, ?_⟩
  intro before after hbefore hnone
  rw [hlength]
  exact Nat.find_min' hfound ⟨before, after ++ behind, rfl, by rw [heq, hbefore]; simp, hnone⟩

/-! ## Splittings -/

theorem isSplitting_singleton_iff : IsSplitting selector [segment] ↔
    selector = segment ∧ IsWhole none segment := by
  constructor
  · intro h
    exact ⟨by simpa using h.joined.symm, isFirst_nil_iff.mp (h.first [] segment [] rfl)⟩
  · rintro ⟨rfl, hwhole⟩
    refine ⟨by simp, by simp, ?_, ?_⟩
    · intro front back heq hfront hback
      obtain ⟨hnil, -⟩ | ⟨-, hnil⟩ := List.singleton_eq_append_iff.mp heq
      · exact absurd hnil hfront
      · exact absurd hnil hback
    · intro front piece back heq
      obtain ⟨rfl, hcons⟩ | ⟨-, hcons⟩ := List.singleton_eq_append_iff.mp heq
      · obtain ⟨rfl, rfl⟩ := List.cons_eq_cons.mp hcons
        exact isFirst_nil_iff.mpr hwhole
      · cases hcons

theorem isSplitting_cons_cons_iff : IsSplitting selector (segment :: next :: pieces) ↔
    ∃ behind, selector = segment ++ separator ++ behind ∧ quoteAfter none segment = none
      ∧ IsFirst segment separator ∧ IsSplitting behind (next :: pieces) := by
  constructor
  · intro h
    have hclosed : quoteAfter none segment = none := by
      simpa using h.outside [segment] (next :: pieces) rfl (by simp) (by simp)
    refine ⟨separator.intercalate (next :: pieces), ?_, hclosed, ?_, by simp, rfl, ?_, ?_⟩
    · rw [← h.joined, List.intercalate_cons_cons]
    · exact h.first [] segment (next :: pieces) rfl
    · intro front back heq hfront hback
      have hlonger := h.outside (segment :: front) back (by rw [heq]; rfl) (by simp) hback
      rwa [List.intercalate_cons_of_ne_nil hfront, quoteAfter_cut hclosed] at hlonger
    · intro front piece back heq
      exact h.first (segment :: front) piece back (by rw [heq]; rfl)
  · rintro ⟨behind, rfl, hclosed, hfirst, h⟩
    refine ⟨by simp, ?_, ?_, ?_⟩
    · rw [List.intercalate_cons_cons, h.joined]
    · intro front back heq hfront hback
      obtain ⟨_, front, rfl⟩ := List.exists_cons_of_ne_nil hfront
      obtain ⟨rfl, htail⟩ := List.cons_eq_cons.mp heq
      obtain rfl | hne := eq_or_ne front []
      · simpa using hclosed
      · rw [List.intercalate_cons_of_ne_nil hne, quoteAfter_cut hclosed]
        exact h.outside front back htail hne hback
    · intro front piece back heq
      cases front with
      | nil =>
        obtain ⟨rfl, rfl⟩ := List.cons_eq_cons.mp heq
        exact hfirst
      | cons _ front => exact h.first front piece back (List.cons_eq_cons.mp heq).2

/-- The splitting that there is, is the one that is found. -/
theorem IsSplitting.eq_segments (h : IsSplitting selector pieces) :
    pieces = segments none selector := by
  induction pieces generalizing selector with
  | nil => exact absurd rfl h.ne_nil
  | cons segment pieces ih =>
    cases pieces with
    | nil =>
      obtain ⟨rfl, hwhole⟩ := isSplitting_singleton_iff.mp h
      exact (segments_of_isWhole hwhole).symm
    | cons next pieces =>
      obtain ⟨behind, rfl, hclosed, hfirst, hbehind⟩ := isSplitting_cons_cons_iff.mp h
      rw [segments_cut hfirst hclosed, ih hbehind]

theorem isSplitting_segments (selector : List Char) :
    IsSplitting selector (segments none selector) := by
  induction hlength : selector.length using Nat.strong_induction_on generalizing selector with
  | _ n ih =>
    by_cases hwhole : IsWhole none selector
    · rw [segments_of_isWhole hwhole]
      exact isSplitting_singleton_iff.mpr ⟨rfl, hwhole⟩
    · obtain ⟨segment, behind, rfl, hclosed, hfirst⟩ := exists_isFirst hwhole
      have hshorter : behind.length < n := by
        rw [← hlength]
        simp [separator]
        omega
      have hbehind := ih behind.length hshorter behind rfl
      rw [segments_cut hfirst hclosed]
      obtain ⟨next, pieces, hcons⟩ := List.exists_cons_of_ne_nil hbehind.ne_nil
      rw [hcons] at hbehind ⊢
      exact isSplitting_cons_cons_iff.mpr ⟨behind, rfl, hclosed, hfirst, hbehind⟩

end

/-- Every selector has one splitting, and its parts are the stripped segments, in their order,
without those that are empty. -/
theorem existsUnique_isSplitting (selector : List Char) : ∃ pieces,
    IsSplitting selector pieces
      ∧ (∀ others, IsSplitting selector others → others = pieces)
      ∧ parts selector = (pieces.map Text.strip).filter fun part => part ≠ [] := by
  refine ⟨segments none selector, isSplitting_segments selector, ?_, ?_⟩
  · intro others h
    exact h.eq_segments
  · rw [parts]
    apply List.filter_congr
    intro part _
    rw [bne, beq_eq_decide, decide_not]

-- of two separators that overlap the first one separates, and an open quote hides the last one
example : segments none " >> >> 'a\\' >> ".toList = ["".toList, ">> 'a\\' >> ".toList] := by
  decide +kernel

end Retrace.Locator
