import Mathlib.Data.List.TakeWhile
import Retrace.Text.Sequence

/-!
# Texts without their control sequences

A control sequence begins with an escape character, which no other place in it
can be, so sequences neither overlap nor reach beyond what follows them. They are
left out one by one, and a text is changed just if it holds one.
-/

namespace Retrace.Text

/-- An escape character and a bracket, parameters, and a letter. -/
def IsSequence (s : List Nat) : Prop :=
  ∃ parameters letter, s = '\x1b'.toNat :: '['.toNat :: (parameters ++ [letter])
    ∧ (∀ n ∈ parameters, isParameter n = true) ∧ isLetter letter = true

/-- A text with a control sequence somewhere in it. -/
def HasSequence (points : List Nat) : Prop :=
  ∃ before s after, points = before ++ s ++ after ∧ IsSequence s

variable {points before s after : List Nat} {n length : Nat}

theorem isParameter_eq_false_of_isLetter (h : isLetter n = true) : isParameter n = false := by
  simp only [isLetter, isParameter, Char.reduceToNat, Bool.or_eq_true, Bool.and_eq_true,
    decide_eq_true_eq, Bool.or_eq_false_iff, Bool.and_eq_false_iff, decide_eq_false_iff_not] at h ⊢
  omega

/-! ## One sequence -/

/-- What follows the escape character of a sequence is as long as it is said to be. -/
theorem sequenceLength?_eq_some_iff :
    sequenceLength? points = some length
      ↔ ∃ parameters letter after, points = '['.toNat :: (parameters ++ letter :: after)
        ∧ (∀ n ∈ parameters, isParameter n = true) ∧ isLetter letter = true
        ∧ length = parameters.length + 2 := by
  constructor
  · intro h
    unfold sequenceLength? at h
    split at h
    · cases h
    · next bracket rest =>
      split at h
      · next hbracket =>
        split at h
        · next letter after hdrop =>
          split at h
          · next hletter =>
            cases h
            refine ⟨rest.takeWhile isParameter, letter, after, ?_, ?_, hletter, rfl⟩
            · rw [hbracket, ← hdrop, List.takeWhile_append_dropWhile]
            · exact fun n => List.mem_takeWhile_imp
          · cases h
        · cases h
      · cases h
  · rintro ⟨parameters, letter, after, rfl, hparameters, hletter, rfl⟩
    have hstop : ¬ isParameter letter = true := by
      rw [isParameter_eq_false_of_isLetter hletter]
      exact Bool.false_ne_true
    rw [sequenceLength?, if_pos rfl, List.dropWhile_append_of_pos hparameters,
      List.dropWhile_cons_of_neg hstop, List.takeWhile_append_of_pos hparameters,
      List.takeWhile_cons_of_neg hstop, List.append_nil]
    exact if_pos hletter

theorem escape_not_mem {parameters : List Nat} {letter : Nat}
    (hparameters : ∀ n ∈ parameters, isParameter n = true) (hletter : isLetter letter = true) :
    '\x1b'.toNat ∉ '['.toNat :: (parameters ++ [letter]) := by
  simp only [List.mem_cons, List.mem_append, List.not_mem_nil, or_false, not_or]
  refine ⟨by decide, fun hmem => ?_, ?_⟩
  · exact absurd (hparameters _ hmem) (by decide)
  · rintro rfl
    exact absurd hletter (by decide)

/-- A sequence does not go on behind another escape character. -/
theorem sequenceLength?_append_escape (points after : List Nat) :
    sequenceLength? (points ++ '\x1b'.toNat :: after) = sequenceLength? points := by
  ext length
  rw [sequenceLength?_eq_some_iff, sequenceLength?_eq_some_iff]
  constructor
  · rintro ⟨parameters, letter, rest, hpoints, hparameters, hletter, rfl⟩
    have hescape := escape_not_mem hparameters hletter
    have hjoined : points ++ '\x1b'.toNat :: after
        = '['.toNat :: (parameters ++ [letter]) ++ rest := by simpa using hpoints
    obtain ⟨between, hsequence, hrest⟩ | ⟨between, rfl, -⟩ := List.append_eq_append_iff.mp hjoined
    · cases between with
      | nil =>
        rw [List.append_nil] at hsequence
        exact ⟨parameters, letter, [], hsequence.symm, hparameters, hletter, rfl⟩
      | cons n between =>
        cases hrest
        rw [hsequence] at hescape
        exact absurd (by simp) hescape
    · exact ⟨parameters, letter, between, by simp, hparameters, hletter, rfl⟩
  · rintro ⟨parameters, letter, rest, rfl, hparameters, hletter, rfl⟩
    exact ⟨parameters, letter, rest ++ '\x1b'.toNat :: after, by simp, hparameters, hletter, rfl⟩

theorem sequenceLength?_le (h : sequenceLength? points = some length) :
    length ≤ points.length := by
  obtain ⟨parameters, letter, after, rfl, -, -, rfl⟩ := sequenceLength?_eq_some_iff.mp h
  simp only [List.length_cons, List.length_append]
  omega

/-! ## All sequences -/

theorem withoutSequencesAfter_append_escape (skip : Nat) (h : skip ≤ before.length) :
    withoutSequencesAfter skip (before ++ '\x1b'.toNat :: after)
      = withoutSequencesAfter skip before ++ withoutSequences ('\x1b'.toNat :: after) := by
  induction before generalizing skip with
  | nil =>
    obtain rfl := Nat.le_zero.mp h
    rfl
  | cons n before ih =>
    cases skip with
    | succ skip => exact ih skip (Nat.le_of_succ_le_succ h)
    | zero =>
      rw [List.cons_append, withoutSequencesAfter, withoutSequencesAfter,
        sequenceLength?_append_escape]
      split
      · next length hlength =>
        split at hlength
        · exact ih length (sequenceLength?_le hlength)
        · cases hlength
      · exact congrArg (n :: ·) (ih 0 (Nat.zero_le _))

/-- Where nothing can begin a sequence, everything is kept. -/
theorem withoutSequences_append (after : List Nat) (h : '\x1b'.toNat ∉ before) :
    withoutSequences (before ++ after) = before ++ withoutSequences after := by
  induction before with
  | nil => rfl
  | cons n before ih =>
    have hn : ¬ n = '\x1b'.toNat := fun hn => h (hn ▸ List.mem_cons_self)
    rw [List.cons_append, withoutSequences, withoutSequencesAfter, if_neg hn]
    exact congrArg (n :: ·) (ih fun hmem => h (List.mem_cons_of_mem n hmem))

theorem withoutSequencesAfter_length (skipped points : List Nat) :
    withoutSequencesAfter skipped.length (skipped ++ points) = withoutSequences points := by
  induction skipped with
  | nil => rfl
  | cons n skipped ih => exact ih

/-- A sequence is left out, and what stands before and after it does not notice. -/
theorem withoutSequences_sequence (before after : List Nat) (h : IsSequence s) :
    withoutSequences (before ++ s ++ after)
      = withoutSequences before ++ withoutSequences after := by
  obtain ⟨parameters, letter, rfl, hparameters, hletter⟩ := h
  have hlength : sequenceLength? ('['.toNat :: (parameters ++ [letter]) ++ after)
      = some ('['.toNat :: (parameters ++ [letter])).length :=
    sequenceLength?_eq_some_iff.mpr
      ⟨parameters, letter, after, by simp, hparameters, hletter, by simp⟩
  rw [List.append_assoc, List.cons_append]
  refine (withoutSequencesAfter_append_escape 0 (Nat.zero_le _)).trans ?_
  rw [withoutSequences, withoutSequences, withoutSequencesAfter, if_pos rfl, hlength]
  exact congrArg _ (withoutSequencesAfter_length _ after)

theorem withoutSequencesAfter_sublist (skip : Nat) (points : List Nat) :
    (withoutSequencesAfter skip points).Sublist points := by
  induction points generalizing skip with
  | nil => cases skip <;> exact .slnil
  | cons n points ih =>
    cases skip with
    | succ skip => exact (ih skip).cons n
    | zero =>
      rw [withoutSequencesAfter]
      split
      · exact (ih _).cons n
      · exact (ih 0).cons_cons n

/-- Nothing is put in or moved. -/
theorem withoutSequences_sublist (points : List Nat) : (withoutSequences points).Sublist points :=
  withoutSequencesAfter_sublist 0 points

/-- A text is what remains of it just if there is no sequence in it. -/
theorem withoutSequences_eq_self_iff : withoutSequences points = points ↔ ¬ HasSequence points := by
  constructor
  · rintro h ⟨before, s, after, rfl, hs⟩
    have hbefore := (withoutSequences_sublist before).length_le
    have hafter := (withoutSequences_sublist after).length_le
    have hlength := congrArg List.length h
    rw [withoutSequences_sequence before after hs] at hlength
    obtain ⟨parameters, letter, rfl, -, -⟩ := hs
    simp only [List.length_append, List.length_cons] at hlength
    omega
  · intro h
    induction points with
    | nil => rfl
    | cons n points ih =>
      have htail : ¬ HasSequence points := by
        rintro ⟨before, s, after, rfl, hs⟩
        exact h ⟨n :: before, s, after, rfl, hs⟩
      rw [withoutSequences, withoutSequencesAfter]
      split
      · next length hlength =>
        split at hlength
        · next hescape =>
          obtain ⟨parameters, letter, after, rfl, hparameters, hletter, -⟩ :=
            sequenceLength?_eq_some_iff.mp hlength
          exact absurd ⟨[], _, after, by simp [hescape], parameters, letter, rfl, hparameters,
            hletter⟩ h
        · cases hlength
      · exact congrArg (n :: ·) (ih htail)

end Retrace.Text
