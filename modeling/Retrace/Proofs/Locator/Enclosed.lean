import Retrace.Proofs.Literal.Text
import Retrace.Proofs.Locator.Part

/-!
# Texts between quotation marks in a selector

Several readers look for the end of a quoted text: the one that cuts a chain,
those of quoted values, and that of JSON. What stands between the marks is made
of single characters and of pairs of a backslash and another character, so all
of them stop at the same mark.
-/

namespace Retrace.Locator

open Literal

/-- What may stand between two quotation marks without ending the quote. -/
inductive Enclosed : List Char → Prop
  | nil : Enclosed []
  | single {c : Char} {s : List Char} (hmark : c ≠ '\x22') (hescape : c ≠ '\\') (h : Enclosed s) :
    Enclosed (c :: s)
  | pair {d : Char} {s : List Char} (hbreak : d ≠ '\n') (h : Enclosed s) :
    Enclosed ('\\' :: d :: s)

theorem Enclosed.append {s t : List Char} (hs : Enclosed s) (ht : Enclosed t) :
    Enclosed (s ++ t) := by
  induction hs with
  | nil => exact ht
  | single hmark hescape _ ih => exact .single hmark hescape ih
  | pair hbreak _ ih => exact .pair hbreak ih

theorem enclosed_of_forall {s : List Char} (h : ∀ c ∈ s, c ≠ '\x22' ∧ c ≠ '\\') : Enclosed s := by
  induction s with
  | nil => exact .nil
  | cons c s ih =>
    obtain ⟨⟨hmark, hescape⟩, hs⟩ := List.forall_mem_cons.mp h
    exact .single hmark hescape (ih hs)

/-! ## Literals -/

theorem enclosed_escapeChar (c : Char) : Enclosed (escapeChar .quotation c) := by
  have hescape := isEscape_escapeChar .quotation c
  generalize escapeChar .quotation c = s at hescape
  cases hescape with
  | self h =>
    have hbreak : c ≠ '\n' := by
      rintro rfl
      exact absurd h (by decide)
    exact .pair hbreak .nil
  | @letter letter h =>
    have hbreak : letter ≠ '\n' := by
      rintro rfl
      exact absurd (controlLetter?_not_control h) (by decide)
    exact .pair hbreak .nil
  | codePoint h =>
    have hdigits : ∀ x ∈ Datum.hexDigits 4 c.toNat, x ≠ '\x22' ∧ x ≠ '\\' := by
      intro x hx
      constructor
      · rintro rfl
        exact not_mem_hexDigits h (by decide) hx
      · rintro rfl
        exact not_mem_hexDigits h (by decide) hx
    exact .pair (by decide) (enclosed_of_forall hdigits)
  | plain hescape hmark => exact .single hmark hescape .nil

/-- The body of a literal does not end its own quote. -/
theorem enclosed_escape (text : List Char) : Enclosed (escape .quotation text) := by
  induction text with
  | nil => exact .nil
  | cons c text ih =>
    rw [escape_cons]
    exact (enclosed_escapeChar c).append ih

/-! ## Where the quote ends -/

theorem Enclosed.takeQuoted_eq {s : List Char} (h : Enclosed s) (rest : List Char) :
    takeQuoted (s ++ '\x22' :: rest) = some (s, rest) := by
  induction h with
  | nil =>
    rw [List.nil_append, takeQuoted.eq_def]
    rfl
  | single hmark hescape _ ih =>
    rw [List.cons_append, takeQuoted.eq_def]
    dsimp only
    rw [if_neg hmark, if_neg hescape, ih]
    rfl
  | pair hbreak _ ih =>
    rw [List.cons_append, List.cons_append, takeQuoted, if_neg (by decide), if_pos rfl,
      if_neg hbreak, ih]
    rfl

/-- A quote that is open stays open over what it encloses. -/
theorem Enclosed.quoteAfter_append {s : List Char} (h : Enclosed s) (rest : List Char) :
    quoteAfter (some '\x22') (s ++ rest) = quoteAfter (some '\x22') rest := by
  induction h with
  | nil => rfl
  | single hmark hescape _ ih =>
    rw [List.cons_append, quoteAfter_inside hescape, if_neg hmark, ih]
  | pair _ _ ih =>
    rw [List.cons_append, List.cons_append, quoteAfter, ih]

theorem Enclosed.isWhole {s rest : List Char} (h : Enclosed s) (hrest : IsWhole none rest) :
    IsWhole (some '\x22') (s ++ '\x22' :: rest) := by
  induction h with
  | nil =>
    apply hrest.cons
    · intro before
      rw [quoteAfter_inside (by decide), if_pos rfl]
    · intro hopen
      cases hopen
  | @single c s hmark hescape _ ih =>
    apply ih.cons
    · intro before
      rw [quoteAfter_inside hescape, if_neg hmark]
    · intro hopen
      cases hopen
  | @pair d s _ _ ih =>
    intro before after heq
    match before with
    | [] => simp [quoteAfter]
    | [b] =>
      obtain ⟨rfl, -⟩ := List.cons_eq_cons.mp heq
      simp [quoteAfter]
    | b :: b' :: before =>
      obtain ⟨hb, hpair⟩ := List.cons_eq_cons.mp heq
      obtain ⟨-, hs⟩ := List.cons_eq_cons.mp hpair
      rw [← hb, quoteAfter]
      exact ih before after hs

end Retrace.Locator
