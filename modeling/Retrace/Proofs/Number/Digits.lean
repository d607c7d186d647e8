import Mathlib.Algebra.Group.Nat.Defs
import Retrace.Number.Layout
import Retrace.Number.Numeral

/-!
# Runs of plain digits

The digits of a whole number are plain and read back as the number, also with
zeros before or behind them. A run of digits ends where another character
stands.
-/

namespace Retrace.Numeral

open Double

theorem isPlainDigit_of_mem_digitsOf {n : Nat} {c : Char} (h : c ∈ digitsOf n) :
    isPlainDigit c = true :=
  Nat.isDigit_of_mem_toDigits (by decide) (by decide) h

theorem decimalValue?_of_isPlainDigit {c : Char} (h : isPlainDigit c = true) :
    Text.decimalValue? c = some (c.toNat - '0'.toNat) := by
  simp only [isPlainDigit, Bool.and_eq_true, decide_eq_true_eq, Char.le_def] at h
  have hlow : 0x30 ≤ c.toNat := h.1
  have hhigh : c.toNat < 0x30 + 10 := Nat.lt_succ_of_le h.2
  simp [Text.decimalValue?, Text.decimalZeros, hlow, hhigh]

/-- A run of plain digits has the value that its digits have by place. -/
theorem valueOf_eq_ofDigitChars {digits : List Char} (h : ∀ c ∈ digits, isPlainDigit c = true) :
    valueOf 10 digits = Nat.ofDigitChars 10 digits 0 := by
  unfold valueOf
  generalize 0 = n
  induction digits generalizing n with
  | nil => rfl
  | cons c digits ih =>
    rw [List.foldl_cons, decimalValue?_of_isPlainDigit (h c (by simp)), Nat.ofDigitChars_cons,
      Nat.mul_comm 10 n]
    apply ih
    intro d hd
    exact h d (by simp [hd])

theorem valueOf_digitsOf (n : Nat) : valueOf 10 (digitsOf n) = n := by
  rw [valueOf_eq_ofDigitChars fun _ => isPlainDigit_of_mem_digitsOf]
  exact Nat.ofDigitChars_ten_toDigits

theorem valueOf_zeros_append {digits : List Char} (h : ∀ c ∈ digits, isPlainDigit c = true)
    (count : Nat) : valueOf 10 (List.replicate count '0' ++ digits) = valueOf 10 digits := by
  have hall : ∀ c ∈ List.replicate count '0' ++ digits, isPlainDigit c = true := by
    intro c hc
    obtain hc | hc := List.mem_append.mp hc
    · rw [List.eq_of_mem_replicate hc]
      decide
    · exact h c hc
  rw [valueOf_eq_ofDigitChars hall, valueOf_eq_ofDigitChars h, Nat.ofDigitChars_append,
    Nat.ofDigitChars_replicate_zero, Nat.mul_zero]

theorem valueOf_append_zeros {digits : List Char} (h : ∀ c ∈ digits, isPlainDigit c = true)
    (count : Nat) :
    valueOf 10 (digits ++ List.replicate count '0') = valueOf 10 digits * 10 ^ count := by
  have hall : ∀ c ∈ digits ++ List.replicate count '0', isPlainDigit c = true := by
    intro c hc
    obtain hc | hc := List.mem_append.mp hc
    · exact h c hc
    · rw [List.eq_of_mem_replicate hc]
      decide
  rw [valueOf_eq_ofDigitChars hall, valueOf_eq_ofDigitChars h, Nat.ofDigitChars_append,
    Nat.ofDigitChars_replicate_zero, Nat.mul_comm]

theorem digitsOf_ne_nil (n : Nat) : digitsOf n ≠ [] := Nat.toDigits_ne_nil

theorem length_digitsOf_le_iff {n k : Nat} (hk : 0 < k) : (digitsOf n).length ≤ k ↔ n < 10 ^ k :=
  Nat.length_toDigits_le_iff (by decide) hk

theorem valueOf_lt {digits : List Char} (h : ∀ c ∈ digits, isPlainDigit c = true) :
    valueOf 10 digits < 10 ^ digits.length := by
  have hfold (n : Nat) : Nat.ofDigitChars 10 digits n < (n + 1) * 10 ^ digits.length := by
    induction digits generalizing n with
    | nil => simp
    | cons c digits ih =>
      have hc : c.toNat - '0'.toNat < 10 := by
        have hplain := h c (by simp)
        simp only [isPlainDigit, Bool.and_eq_true, decide_eq_true_eq, Char.le_def] at hplain
        have hhigh : c.toNat < 0x30 + 10 := Nat.lt_succ_of_le hplain.2
        have hzero : '0'.toNat = 0x30 := rfl
        omega
      rw [Nat.ofDigitChars_cons]
      calc
        _ < (10 * n + (c.toNat - '0'.toNat) + 1) * 10 ^ digits.length := by
          apply ih
          intro d hd
          exact h d (by simp [hd])
        _ ≤ (n + 1) * 10 * 10 ^ digits.length := Nat.mul_le_mul_right _ (by omega)
        _ = (n + 1) * 10 ^ (c :: digits).length := by
          rw [List.length_cons, Nat.pow_succ, Nat.mul_comm (10 ^ digits.length), Nat.mul_assoc]
  rw [valueOf_eq_ofDigitChars h]
  simpa using hfold 0

/-- No zero stands in front of another digit. -/
theorem digitsOf_head (n : Nat) : digitsOf n = ['0'] ∨ (digitsOf n).head? ≠ some '0' := by
  by_cases hzero : (digitsOf n).head? = some '0'
  case neg => exact Or.inr hzero
  obtain ⟨rest, hdigits⟩ : ∃ rest, digitsOf n = '0' :: rest := List.head?_eq_some_iff.mp hzero
  by_cases hrest : rest = []
  · exact Or.inl (hrest ▸ hdigits)
  -- the number would need one digit fewer
  have hplain : ∀ c ∈ rest, isPlainDigit c = true := fun c hc =>
    isPlainDigit_of_mem_digitsOf (n := n) (by simp [hdigits, hc])
  have hvalue : valueOf 10 rest = n := by
    rw [← valueOf_digitsOf n, hdigits]
    exact (valueOf_zeros_append hplain 1).symm
  have := (length_digitsOf_le_iff (List.length_pos_iff.mpr hrest)).mpr (hvalue ▸ valueOf_lt hplain)
  rw [hdigits, List.length_cons] at this
  omega

/-- The digits of a whole number, behind a minus sign if it is negative. -/
theorem toList_toString (n : Int) :
    (toString n).toList = (if n < 0 then ['-'] else []) ++ digitsOf n.natAbs := by
  rw [Int.toString_eq_repr, Int.repr_eq_if]
  split
  case isTrue h =>
    have habs : n.natAbs = n.toNat := by omega
    simp [digitsOf, habs, show ¬n < 0 by omega]
  case isFalse h =>
    have habs : n.natAbs = (-n).toNat := by omega
    simp [digitsOf, habs, show n < 0 by omega]

/-- A run of characters ends where one of another kind stands. -/
theorem span_append {p : Char → Bool} {run rest : List Char} (h : ∀ c ∈ run, p c = true)
    (hrest : ∀ c ∈ rest.head?, p c = false) :
    (run ++ rest).takeWhile p = run ∧ (run ++ rest).dropWhile p = rest := by
  rw [List.takeWhile_append_of_pos h, List.dropWhile_append_of_pos h]
  cases rest with
  | nil => simp
  | cons c rest => simp [hrest c (by simp)]

theorem takeDigits_append {digits : List Char} (h : ∀ c ∈ digits, isPlainDigit c = true)
    (rest : List Char) (hrest : ∀ c ∈ rest.head?, isPlainDigit c = false) :
    takeDigits (digits ++ rest) = (digits, rest) := by
  obtain ⟨htake, hdrop⟩ := span_append h hrest
  rw [takeDigits, htake, hdrop]

end Retrace.Numeral
