import Mathlib.Data.Nat.Cast.Field
import Retrace.Proofs.Number.ReadBack
import Retrace.Proofs.Text.Strip

/-!
# Whole numbers

The text of a whole number is a run of plain digits behind its sign: no blanks
stand around it and no underscores in it, so it is read as the number, unless
it is too long to be read at all. A double without a fraction is the one
nearest to its whole value, so this value leaves open no more than the sign of
a zero.
-/

namespace Retrace.Numeral

open Double

/-- No digit of any kind is a blank. -/
theorem isBlankAround_of_isDigit {c : Char} (h : Text.isDigit c = true) :
    isBlankAround c = false := by
  have hdigit :
      Text.inRanges (Text.decimalZeros.map (fun z => (z, z + 9)) ++ Text.otherDigitRanges) c
        = true := by
    rw [Text.inRanges_append, Bool.or_eq_true]
    refine (Bool.or_eq_true _ _ ▸ h).imp_left fun hvalue => ?_
    obtain ⟨_, hvalue⟩ := Option.isSome_iff_exists.mp hvalue
    obtain ⟨z, hz, -⟩ := Option.map_eq_some_iff.mp hvalue
    have hrange := List.find?_some hz
    simp only [Bool.and_eq_true, decide_eq_true_eq] at hrange
    exact Text.inRanges_eq_true_iff.mpr
      ⟨_, List.mem_map_of_mem (List.mem_of_find?_eq_some hz), hrange.1, by omega⟩
  have hblank : Text.isBlank c = false :=
    Text.inRanges_eq_false_of_apart (by decide +kernel) hdigit
  rw [isBlankAround, hblank, Bool.false_and]

theorem trim_eq_self {s : List Char} (h : ∀ c ∈ s, isBlankAround c = false) : trim s = s := by
  have hstart {s : List Char} (h : ∀ c ∈ s, isBlankAround c = false) :
      s.dropWhile isBlankAround = s := by
    apply List.dropWhile_eq_self_iff.mpr
    intro hlength
    rw [h _ (List.getElem_mem hlength)]
    exact Bool.false_ne_true
  have hreverse : ∀ c ∈ s.reverse, isBlankAround c = false :=
    fun c hc => h c (List.mem_reverse.mp hc)
  rw [trim, hstart h, hstart hreverse, List.reverse_reverse]

theorem wellGrouped_of_not_mem {s : List Char} (h : '_' ∉ s) : wellGrouped s = true := by
  have hhead : s.head? ≠ some '_' := fun hc => h (List.mem_of_mem_head? hc)
  have hlast : s.getLast? ≠ some '_' := fun hc => h (List.mem_of_getLast? hc)
  have hpairs : ∀ c d, (c, d) ∈ s.zip s.tail → ¬ c = '_' ∨ ¬ d = '_' := by
    rintro c d hpair
    left
    rintro rfl
    exact h (List.of_mem_zip hpair).1
  simpa [wellGrouped, hhead, hlast] using hpairs

theorem filter_of_not_mem {s : List Char} (h : '_' ∉ s) : s.filter (· != '_') = s := by
  apply List.filter_eq_self.mpr
  rintro c hc
  rw [bne_iff_ne]
  rintro rfl
  exact h hc

theorem takeSign_suffix (s : List Char) : (takeSign s).2 <:+ s := by
  unfold takeSign
  split
  · exact List.suffix_cons _ _
  · exact List.suffix_cons _ _
  · exact List.suffix_refl s

/-- The digits, of any script, that a whole number may have. -/
structure IsDecimalRun (digits : List Char) : Prop where
  nonempty : digits ≠ []
  decimal : ∀ c ∈ digits, (Text.decimalValue? c).isSome = true
  short : digits.length ≤ digitLimit

/-- Where there are no blanks and no underscores, a whole number is a run of digits behind at
most one sign. -/
theorem exists_readInteger_iff {s : List Char} (hblank : ∀ c ∈ s, isBlankAround c = false)
    (hgap : '_' ∉ s) : (∃ n, readInteger s = .ok n) ↔ IsDecimalRun (takeSign s).2 := by
  have hgap : '_' ∉ (takeSign s).2 := fun h => hgap ((takeSign_suffix s).subset h)
  unfold readInteger
  rw [trim_eq_self hblank]
  generalize takeSign s = signed at hgap ⊢
  obtain ⟨negative, body⟩ := signed
  dsimp only
  generalize hpart : (fun c => (Text.decimalValue? c).isSome || c == '_') = isPart
  have hdecimal : ∀ c ∈ body, isPart c = true ↔ (Text.decimalValue? c).isSome = true := by
    intro c hc
    have hne : c ≠ '_' := by
      rintro rfl
      exact hgap hc
    simp [← hpart, hne]
  have hrun : '_' ∉ body.takeWhile isPart := fun h => hgap ((List.takeWhile_prefix _).subset h)
  rw [wellGrouped_of_not_mem hrun, filter_of_not_mem hrun]
  constructor
  · rintro ⟨n, h⟩
    simp only [Bool.not_true, Bool.false_eq_true, if_false] at h
    split_ifs at h with hlong hrest
    simp only [bne_iff_ne, ne_eq, not_or, not_not, Bool.or_eq_true, decide_eq_true_eq] at hrest
    have hall : ∀ c ∈ body, isPart c = true := List.dropWhile_eq_nil_iff.mp hrest.1
    rw [List.takeWhile_eq_self_iff.mpr hall] at hlong hrest
    exact ⟨fun h => hrest.2 (by simp [h]), fun c hc => (hdecimal c hc).mp (hall c hc), by omega⟩
  · intro h
    have hall : ∀ c ∈ body, isPart c = true := fun c hc => (hdecimal c hc).mpr (h.decimal c hc)
    have hshort : ¬ digitLimit < body.length := Nat.not_lt.mpr h.short
    rw [List.takeWhile_eq_self_iff.mpr hall, List.dropWhile_eq_nil_iff.mpr hall]
    simp [hshort, h.nonempty]

section

variable {digits : List Char} (h : ∀ c ∈ digits, isPlainDigit c = true)

include h

theorem ne_of_mem_digits {d : Char} (hd : isPlainDigit d = false) : ∀ c ∈ digits, c ≠ d := by
  rintro c hc rfl
  rw [h c hc] at hd
  cases hd

theorem takeSign_signed (negative : Bool) :
    takeSign ((if negative then ['-'] else []) ++ digits) = (negative, digits) := by
  cases negative with
  | true => rfl
  | false =>
    cases digits with
    | nil => rfl
    | cons c digits =>
      have hminus : c ≠ '-' := ne_of_mem_digits h (by decide) c (by simp)
      have hplus : c ≠ '+' := ne_of_mem_digits h (by decide) c (by simp)
      simp [takeSign, hminus, hplus]

/-- A run of plain digits of limited length is read behind a sign, blanks or not. -/
theorem readInteger_signed (hne : digits ≠ []) (hlength : digits.length ≤ digitLimit)
    (negative : Bool) :
    readInteger ((if negative then ['-'] else []) ++ digits)
      = .ok (signed negative (valueOf 10 digits)) := by
  have htrim : trim ((if negative then ['-'] else []) ++ digits)
      = (if negative then ['-'] else []) ++ digits := by
    apply trim_eq_self
    intro c hc
    obtain hc | hc := List.mem_append.mp hc
    · cases negative with
      | false => cases hc
      | true =>
        rw [List.mem_singleton.mp hc]
        decide
    · exact isBlankAround_of_isDigit
        (Text.isDigit_of_decimalValue? (decimalValue?_of_isPlainDigit (h c hc)))
  have hpart : ∀ c ∈ digits, ((Text.decimalValue? c).isSome || c == '_') = true := by
    intro c hc
    rw [decimalValue?_of_isPlainDigit (h c hc)]
    rfl
  have hstop : ∀ c ∈ ([] : List Char).head?,
      ((Text.decimalValue? c).isSome || c == '_') = false := by simp
  obtain ⟨htake, hdrop⟩ := span_append hpart hstop
  rw [List.append_nil] at htake hdrop
  have hgap : '_' ∉ digits := fun hc => ne_of_mem_digits h (by decide) '_' hc rfl
  rw [readInteger, htrim, takeSign_signed h]
  simp [htake, hdrop, filter_of_not_mem hgap, wellGrouped_of_not_mem hgap, hne, hlength]

end

theorem readInteger_toString {n : Int} (h : n.natAbs < 10 ^ digitLimit) :
    readInteger (toString n).toList = .ok n := by
  have hplain : ∀ c ∈ digitsOf n.natAbs, isPlainDigit c = true :=
    fun _ => isPlainDigit_of_mem_digitsOf
  have hread := readInteger_signed hplain (digitsOf_ne_nil _)
    ((length_digitsOf_le_iff (by decide)).mpr h) (decide (n < 0))
  rw [valueOf_digitsOf, signed_natAbs] at hread
  simp only [decide_eq_true_eq] at hread
  rw [toList_toString]
  exact hread

end Retrace.Numeral

namespace Retrace.Double

/-! ## Doubles without a fraction -/

theorem Interval.has_self {m : Nat} (hm : 0 < m) (e : Int) :
    (Interval.around m e).Has (m * 2 ^ e) := by
  have hpower : (0 : ℚ) < 2 ^ e := by positivity
  have hlow : ((Interval.around m e).low : ℚ) < 4 * m := by
    have h : (Interval.around m e).low < 4 * m := by
      simp only [around]
      split <;> omega
    exact_mod_cast h
  have hhigh : ((Interval.around m e).high : ℚ) = 4 * m + 2 := by simp [around]
  have hexponent : (Interval.around m e).exponent = e - 2 := rfl
  apply Interval.has_of_lt
  · rw [hexponent, zpow_sub_two]
    nlinarith
  · rw [hexponent, zpow_sub_two, hhigh]
    nlinarith

/-- A whole value is mantissa times power, with the sign of the number. -/
theorem toInt?_eq_some {x : Double} {n : Int} (h : x.toInt? = some n) :
    ∃ negative m e, ∃ q : Nat, x.view = .finite negative m e ∧ (q : ℚ) = m * 2 ^ e
      ∧ n = if negative then -(q : Int) else q := by
  unfold toInt? at h
  split at h
  case h_2 => cases h
  case h_1 negative m e hview =>
    have hvalue := scale_value m 1 (-e)
    generalize scale m 1 (-e) = quotient at h hvalue
    dsimp only at h
    split at h
    case isFalse => cases h
    case isTrue hwhole =>
      refine ⟨negative, m, e, quotient.1 / quotient.2, hview, ?_, (Option.some.inj h).symm⟩
      rw [Nat.cast_div_charZero (Nat.dvd_of_mod_eq_zero hwhole), hvalue, Nat.cast_one, div_one,
        zpow_neg, div_inv_eq_mul]

/-- A number that is whole and not zero is the one nearest to its value. -/
theorem ofInt_of_toInt? {x : Double} {n : Int} (h : x.toInt? = some n) (hn : n ≠ 0) :
    ofInt n = x := by
  obtain ⟨negative, m, e, q, hview, hq, rfl⟩ := toInt?_eq_some h
  obtain ⟨hparts, hx⟩ := of_view_finite hview
  have hqpos : 0 < q := by
    cases negative <;> simp at hn <;> omega
  have hm : 0 < m := by
    obtain rfl | hm := Nat.eq_zero_or_pos m
    · rw [Nat.cast_zero, zero_mul, Nat.cast_eq_zero] at hq
      omega
    · exact hm
  have hsign : decide ((if negative then -(q : Int) else q) < 0) = negative := by
    cases negative
    · simp
    · simp [hqpos]
  have hsize : (if negative then -(q : Int) else q).natAbs = q := by
    cases negative <;> simp
  have hhas : (Interval.around m e).Has ((q : ℚ) / (1 : Nat)) := by
    rw [hq, Nat.cast_one, div_one]
    exact Interval.has_self hm e
  rw [ofInt, hsign, hsize, ofRatio_eq_of_has hparts hm one_ne_zero hhas, hx]

/-- Numbers of the same whole value are equal, up to the sign of a zero. -/
theorem sameValue_of_toInt? {x y : Double} {n : Int} (hx : x.toInt? = some n)
    (hy : y.toInt? = some n) : x.sameValue y = true := by
  by_cases hn : n = 0
  · have hzero {z : Double} (hz : z.toInt? = some n) :
        ∃ negative e, z.view = .finite negative 0 e := by
      obtain ⟨negative, m, e, q, hview, hq, hvalue⟩ := toInt?_eq_some hz
      have hq0 : q = 0 := by
        cases negative <;> simp [hn] at hvalue <;> omega
      have hpower : (2 : ℚ) ^ e ≠ 0 := by positivity
      rw [hq0, Nat.cast_zero, zero_eq_mul, or_iff_left hpower, Nat.cast_eq_zero] at hq
      exact ⟨negative, e, hq ▸ hview⟩
    obtain ⟨_, _, hviewx⟩ := hzero hx
    obtain ⟨_, _, hviewy⟩ := hzero hy
    simp [sameValue, hviewx, hviewy]
  · have hsame : x = y := (ofInt_of_toInt? hx hn).symm.trans (ofInt_of_toInt? hy hn)
    obtain ⟨negative, m, e, q, hview, -, -⟩ := toInt?_eq_some hx
    rw [sameValue, ← hsame, hview]
    cases m <;> simp

end Retrace.Double
