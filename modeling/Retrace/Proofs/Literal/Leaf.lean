import Retrace.Literal.Value
import Retrace.Proofs.Literal.Grammar
import Retrace.Proofs.Number.ReadBack

/-!
# Numbers as leaves

The text of a whole number of limited length and the text of a finite double
are leaves, and they are read as the number that was written.
-/

namespace Retrace.Literal

open Numeral Double

theorem isLeafChar_of_isNumeralChar {c : Char} (h : isNumeralChar c = true) :
    isLeafChar c = true := by
  have hne {x : Char} (hx : isNumeralChar x = false) : c ≠ x := by
    rintro rfl
    rw [hx] at h
    cases h
  have hmark : mark? c = none := by
    rw [mark?]
    repeat rw [if_neg (hne (by decide))]
  have hblank : c ≠ ' ' := hne (by decide)
  have hquotation : c ≠ '\x22' := hne (by decide)
  simp [isLeafChar, hmark, hblank, hquotation]

theorem isNumeralChar_not_control {c : Char} (h : isNumeralChar c = true) :
    0x20 ≤ c.toNat := by
  simp only [isNumeralChar, isPlainDigit, Bool.or_eq_true, Bool.and_eq_true,
    decide_eq_true_eq] at h
  obtain (((⟨h, -⟩ | rfl) | rfl) | rfl) | rfl := h
  · exact Nat.le_trans (by decide) (Char.le_def.mp h)
  all_goals decide

/-- The text of a number behind its sign. -/
theorem isNumeralChar_signed (negative : Bool) {s : List Char}
    (h : ∀ c ∈ s, isNumeralChar c = true) :
    ∀ c ∈ (if negative then ['-'] else []) ++ s, isNumeralChar c = true := by
  intro c hc
  obtain hc | hc := List.mem_append.mp hc
  · cases negative with
    | false => cases hc
    | true =>
      rw [List.mem_singleton.mp hc]
      decide
  · exact h c hc

theorem takeMinus_signed (negative : Bool) {s : List Char} (h : s.head? ≠ some '-') :
    takeMinus ((if negative then ['-'] else []) ++ s) = (negative, s) := by
  cases negative with
  | true => rfl
  | false =>
    cases s with
    | nil => rfl
    | cons c s =>
      have hc : c ≠ '-' := by simpa using h
      simp [takeMinus, hc]

theorem readLeaf_eq_readNumber {s : List Char} (h : ∀ c ∈ s, isNumeralChar c = true) :
    readLeaf s = readNumber s := by
  have hword {word : String} {c : Char} (hc : c ∈ word.toList)
      (hn : isNumeralChar c = false) : s ≠ word.toList := by
    rintro rfl
    rw [h c hc] at hn
    cases hn
  rw [readLeaf, if_neg (hword (c := 'N') (by decide) (by decide)),
    if_neg (hword (c := 'T') (by decide) (by decide)),
    if_neg (hword (c := 'F') (by decide) (by decide))]

theorem head?_ne_minus {s : List Char} (h : ∀ c ∈ s.head?, isPlainDigit c = true) :
    s.head? ≠ some '-' := by
  intro hs
  exact absurd (h '-' hs) (by decide)

theorem isWhole_digitsOf {n : Nat} (h : n < 10 ^ digitLimit) : isWhole (digitsOf n) = true := by
  have hlength := (length_digitsOf_le_iff (by decide)).mpr h
  obtain hzero | hhead := digitsOf_head n
  · simp [isWhole, hzero]
  · simp [isWhole, digitsOf_ne_nil, hhead, hlength]

/-- A whole number of limited length is read back. -/
theorem readNumber_toString {n : Int} (h : n.natAbs < 10 ^ digitLimit) :
    readNumber (toString n).toList = some (.int n) := by
  have hplain : ∀ c ∈ digitsOf n.natAbs, isPlainDigit c = true :=
    fun _ => isPlainDigit_of_mem_digitsOf
  have hminus := takeMinus_signed (decide (n < 0))
    (head?_ne_minus fun c hc => hplain c (List.mem_of_mem_head? hc))
  simp only [decide_eq_true_eq] at hminus
  rw [toList_toString, readNumber, hminus]
  dsimp only
  rw [if_pos (List.all_eq_true.mpr hplain), if_pos (isWhole_digitsOf h), valueOf_digitsOf,
    signed_natAbs]

theorem isNumeralChar_toString (n : Int) :
    ∀ c ∈ (toString n).toList, isNumeralChar c = true := by
  have h := isNumeralChar_signed (decide (n < 0))
    fun c hc => (isRun_digitsOf n.natAbs).isNumeralChar hc
  rw [toList_toString]
  simpa only [decide_eq_true_eq] using h

theorem not_all_isPlainDigit {s : List Char} {m : Nat} {e : Int} (h : Spells s m e) :
    s.all isPlainDigit = false := by
  have hmark : ∃ c ∈ s, isPlainDigit c = false := by
    cases h with
    | point => exact ⟨'.', by simp, by decide⟩
    | power => exact ⟨'e', by simp, by decide⟩
    | pointPower => exact ⟨'.', by simp, by decide⟩
  rw [← Bool.not_eq_true, List.all_eq_true]
  obtain ⟨c, hc, hplain⟩ := hmark
  intro hall
  rw [hall c hc] at hplain
  cases hplain

theorem head?_of_spells {s : List Char} {m : Nat} {e : Int} (h : Spells s m e) :
    ∀ c ∈ s.head?, isPlainDigit c = true := by
  have hrun {digits rest : List Char} (h : IsRun digits) :
      ∀ c ∈ (digits ++ rest).head?, isPlainDigit c = true := by
    cases digits with
    | nil => exact absurd rfl h.1
    | cons d digits =>
      intro c hc
      cases hc
      exact h.2 _ (by simp)
  cases h with
  | point hw => exact hrun hw
  | power _ hw => exact hrun hw
  | pointPower _ hw =>
    rw [List.append_assoc]
    exact hrun hw

/-- A finite double is read back from its text. -/
theorem readNumber_text {x : Double} (h : x.isFinite = true) :
    readNumber (x.text .standard) = some (.double x)
      ∧ ∀ c ∈ x.text .standard, isNumeralChar c = true := by
  unfold Double.isFinite at h
  split at h
  case h_2 => cases h
  case h_1 negative m e hview =>
    obtain ⟨k, hspells⟩ := spells_write (shortest m e)
    have hminus := takeMinus_signed negative
      (head?_ne_minus (head?_of_spells hspells))
    have htext : x.text .standard
        = (if negative then ['-'] else []) ++ Layout.standard.write (shortest m e) := by
      rw [Double.text, hview]
    rw [htext]
    constructor
    · rw [readNumber, hminus]
      dsimp only
      rw [if_neg (by rw [not_all_isPlainDigit hspells]; simp), readUnsigned_write hview,
        Option.map_some]
    · apply isNumeralChar_signed negative
      intro c hc
      exact hspells.isNumeralChar hc

theorem mul_two_pow_lt {m k a b : Nat} (hm : m < 2 ^ a) (hk : k ≤ b) : m * 2 ^ k < 2 ^ (a + b) := by
  calc
    m * 2 ^ k < 2 ^ a * 2 ^ k := Nat.mul_lt_mul_of_pos_right hm (Nat.pow_pos (by decide))
    _ ≤ 2 ^ a * 2 ^ b := Nat.mul_le_mul_left _ (Nat.pow_le_pow_right (by decide) hk)
    _ = 2 ^ (a + b) := (Nat.pow_add 2 a b).symm

/-- The whole value of a double has few digits. -/
theorem natAbs_lt_of_toInt? {x : Double} {n : Int} (h : x.toInt? = some n) :
    n.natAbs < 10 ^ digitLimit := by
  unfold Double.toInt? at h
  split at h
  case h_2 => cases h
  case h_1 negative m e hview =>
    obtain ⟨hparts, -⟩ := of_view_finite hview
    have hexponent : (- -e).toNat ≤ 971 := by
      have := hparts.most
      omega
    have hscaled : (scale m 1 (-e)).1 < 2 ^ (53 + 971) :=
      mul_two_pow_lt hparts.mantissa_lt hexponent
    have hlimit : (2 : Nat) ^ (53 + 971) ≤ 10 ^ digitLimit := by decide +kernel
    have hdiv := Nat.div_le_self (scale m 1 (-e)).1 (scale m 1 (-e)).2
    apply lt_of_le_of_lt _ (hscaled.trans_le hlimit)
    dsimp only at h
    generalize (scale m 1 (-e)).1 / (scale m 1 (-e)).2 = quotient at *
    split at h
    case isFalse => cases h
    case isTrue =>
      cases h
      split <;> simpa using hdiv

/-! ## Written numbers -/

theorem ofInt_eq_ok {n : Int} {s : List Char} (h : ofInt n = .ok s) : s = (toString n).toList := by
  unfold ofInt writeInteger? at h
  split at h
  · next hwrite =>
    cases h
    split at hwrite
    · cases hwrite
    · cases hwrite
      rfl
  · cases h

theorem toString_ne_nil (n : Int) : (toString n).toList ≠ [] := by
  rw [toList_toString]
  simp [digitsOf_ne_nil]

/-- A double is written with characters of numerals, and with at least one. -/
theorem ofDouble_eq_ok {x : Double} {s : List Char} (h : ofDouble x = .ok s) :
    (∀ c ∈ s, isNumeralChar c = true) ∧ s ≠ [] := by
  unfold ofDouble at h
  split at h
  · cases h
    exact ⟨isNumeralChar_toString _, toString_ne_nil _⟩
  · split at h
    case isFalse => cases h
    case isTrue hfinite =>
      cases h
      obtain ⟨hread, hchars⟩ := readNumber_text hfinite
      refine ⟨hchars, ?_⟩
      intro hnil
      rw [hnil] at hread
      cases hread

theorem ofDouble_of_isFinite {x : Double} (h : x.isFinite = true) : ∃ s, ofDouble x = .ok s := by
  unfold ofDouble
  split
  · exact ⟨_, rfl⟩
  · exact ⟨_, if_pos h⟩

/-- What is not finite has no literal. -/
theorem ofDouble_of_not_isFinite {x : Double} (h : x.isFinite = false) :
    ofDouble x = .error (.unsupported (.double x)) := by
  have hwhole : x.toInt? = none := by
    unfold isFinite at h
    unfold toInt?
    cases hview : x.view with
    | finite negative mantissa exponent =>
      rw [hview] at h
      cases h
    | nan => rfl
    | infinite negative => rfl
  rw [ofDouble, hwhole, h]
  rfl

end Retrace.Literal
