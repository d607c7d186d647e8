import Retrace.Proofs.Number.Digits

/-!
# Written decimals

A numeral spells a whole number of units of a power of ten. The standard layout
spells the decimal that it is given, or the same number in smaller units, and a
spelled numeral is read as what it spells.
-/

namespace Retrace.Double

open Numeral

/-- A run of plain digits that is not empty. -/
def IsRun (digits : List Char) : Prop := digits ≠ [] ∧ ∀ c ∈ digits, isPlainDigit c = true

theorem isRun_zero : IsRun ['0'] := by
  constructor
  · simp
  · intro c hc
    rw [List.mem_singleton.mp hc]
    decide

theorem isRun_digitsOf (n : Nat) : IsRun (digitsOf n) :=
  ⟨Nat.toDigits_ne_nil, fun _ => isPlainDigit_of_mem_digitsOf⟩

theorem IsRun.append_zeros {digits : List Char} (h : IsRun digits) (count : Nat) :
    IsRun (digits ++ List.replicate count '0') := by
  constructor
  · simp [h.1]
  · intro c hc
    obtain hc | hc := List.mem_append.mp hc
    · exact h.2 c hc
    · rw [List.eq_of_mem_replicate hc]
      decide

theorem IsRun.zeros_append {digits : List Char} (h : IsRun digits) (count : Nat) :
    IsRun (List.replicate count '0' ++ digits) := by
  constructor
  · simp [h.1]
  · intro c hc
    obtain hc | hc := List.mem_append.mp hc
    · rw [List.eq_of_mem_replicate hc]
      decide
    · exact h.2 c hc

/-- The text of a numeral, its digits as a whole number, and the power of ten of the last one. -/
inductive Spells : List Char → Nat → Int → Prop
  | point {whole fraction : List Char} (hw : IsRun whole) (hf : IsRun fraction) :
    Spells (whole ++ '.' :: fraction) (valueOf 10 (whole ++ fraction)) (-fraction.length)
  | power {whole digits : List Char} (negative : Bool) (hw : IsRun whole) (hd : IsRun digits) :
    Spells (whole ++ 'e' :: (if negative then '-' else '+') :: digits) (valueOf 10 whole)
      (signed negative (valueOf 10 digits))
  | pointPower {whole fraction digits : List Char} (negative : Bool) (hw : IsRun whole)
    (hf : IsRun fraction) (hd : IsRun digits) :
    Spells (whole ++ '.' :: fraction ++ 'e' :: (if negative then '-' else '+') :: digits)
      (valueOf 10 (whole ++ fraction)) (signed negative (valueOf 10 digits) - fraction.length)

theorem Spells.of_eq {s : List Char} {m m' : Nat} {e e' : Int} (h : Spells s m e) (hm : m = m')
    (he : e = e') : Spells s m' e' := hm ▸ he ▸ h

/-! ## The standard layout -/

theorem signed_natAbs (power : Int) :
    signed (decide (power < 0)) power.natAbs = power := by
  unfold signed
  by_cases h : power < 0
  · rw [if_pos (decide_eq_true h)]
    omega
  · rw [if_neg (by simpa using h)]
    omega

theorem isRun_padLeft (width n : Nat) : IsRun (padLeft width '0' (digitsOf n)) :=
  (isRun_digitsOf n).zeros_append _

theorem valueOf_padLeft (width n : Nat) : valueOf 10 (padLeft width '0' (digitsOf n)) = n := by
  rw [padLeft, valueOf_zeros_append (isRun_digitsOf n).2, valueOf_digitsOf]

/-- The exponential form spells the decimal as it is. -/
theorem spells_exponential (d : Decimal) (mantissa : List Char)
    (h : mantissa = match digitsOf d.digits with
      | [] => []
      | [c] => [c]
      | c :: rest => c :: '.' :: rest) :
    let power := ((digitsOf d.digits).length : Int) + d.exponent - 1
    Spells (mantissa ++ 'e' :: (if power < 0 then '-' else '+')
      :: padLeft 2 '0' (digitsOf power.natAbs)) d.digits d.exponent := by
  intro power
  have hsign : (if power < 0 then '-' else '+') = if decide (power < 0) then '-' else '+' := by
    simp
  have hdigits := isRun_digitsOf d.digits
  have hvalue := valueOf_digitsOf d.digits
  have hp := isRun_padLeft 2 power.natAbs
  rw [hsign, h]
  match hc : digitsOf d.digits with
  | [] => exact absurd hc hdigits.1
  | [c] =>
    rw [hc] at hdigits hvalue
    refine (Spells.power (decide (power < 0)) hdigits hp).of_eq hvalue ?_
    rw [valueOf_padLeft, signed_natAbs]
    simp only [power, hc, List.length_singleton]
    omega
  | c :: b :: rest =>
    rw [hc] at hdigits hvalue
    have hw : IsRun [c] := ⟨by simp, fun x hx => hdigits.2 x (by simp_all)⟩
    have hf : IsRun (b :: rest) := ⟨by simp, fun x hx => hdigits.2 x (List.mem_cons_of_mem c hx)⟩
    refine (Spells.pointPower (decide (power < 0)) hw hf hp).of_eq hvalue ?_
    rw [valueOf_padLeft, signed_natAbs]
    simp only [power, hc, List.length_cons]
    omega

theorem spells_zeros {digits : List Char} (h : IsRun digits) (count : Nat) :
    Spells ('0' :: '.' :: List.replicate count '0' ++ digits) (valueOf 10 digits)
      (-(count + digits.length : Nat)) := by
  refine (Spells.point isRun_zero (h.zeros_append count)).of_eq ?_ (by simp)
  exact valueOf_zeros_append h.2 (count + 1)

theorem spells_whole {digits : List Char} (h : IsRun digits) (count : Nat) :
    Spells (digits ++ List.replicate count '0' ++ ['.', '0'])
      (valueOf 10 digits * 10 ^ (count + 1)) (-1) := by
  refine (Spells.point (h.append_zeros count) isRun_zero).of_eq ?_ rfl
  rw [← valueOf_append_zeros h.2, List.replicate_succ', List.append_assoc]

theorem spells_divided {digits : List Char} (h : IsRun digits) {n : Nat} (hn : 0 < n)
    (hlength : n < digits.length) :
    Spells (digits.take n ++ '.' :: digits.drop n) (valueOf 10 digits)
      (n - digits.length : Int) := by
  have hw : IsRun (digits.take n) := by
    constructor
    · intro hnil
      obtain hzero | hempty := List.take_eq_nil_iff.mp hnil
      · omega
      · exact h.1 hempty
    · intro c hc
      exact h.2 c (List.mem_of_mem_take hc)
  have hf : IsRun (digits.drop n) := by
    constructor
    · intro hnil
      have := List.drop_eq_nil_iff.mp hnil
      omega
    · intro c hc
      exact h.2 c (List.mem_of_mem_drop hc)
  refine (Spells.point hw hf).of_eq (by rw [List.take_append_drop]) ?_
  rw [List.length_drop]
  omega

/-- What the standard layout writes spells the decimal, perhaps in smaller units. -/
theorem spells_write (d : Decimal) :
    ∃ k : Nat, Spells (Layout.standard.write d) (d.digits * 10 ^ k) (d.exponent - k) := by
  have hrun := isRun_digitsOf d.digits
  have hvalue := valueOf_digitsOf d.digits
  have hexponential := spells_exponential d _ rfl
  generalize hl : Layout.standard = l
  generalize hs : l.write d = s
  simp only [Layout.write] at hs
  -- the bounds of the layout are opened only when the cases stand, or they would be decided
  split at hs
  case isFalse =>
    subst hl hs
    exact ⟨0, hexponential.of_eq (by simp) (by simp)⟩
  split at hs
  · subst hs
    refine ⟨0, (spells_zeros hrun _).of_eq (by simp [hvalue]) ?_⟩
    omega
  split at hs
  · subst hl hs
    refine ⟨d.exponent.toNat + 1, (spells_whole hrun _).of_eq ?_ ?_⟩
    · rw [hvalue]
      congr 2
      omega
    · omega
  · subst hs
    refine ⟨0, (spells_divided hrun ?_ ?_).of_eq (by simp [hvalue]) ?_⟩
    all_goals omega

/-! ## Reading -/

/-- A plain digit, or one of the marks of a written number. -/
def isNumeralChar (c : Char) : Bool :=
  isPlainDigit c || c = '.' || c = 'e' || c = '+' || c = '-'

theorem IsRun.isNumeralChar {digits : List Char} (h : IsRun digits) {c : Char} (hc : c ∈ digits) :
    isNumeralChar c = true := by
  simp [Double.isNumeralChar, h.2 c hc]

theorem Spells.isNumeralChar {s : List Char} {m : Nat} {e : Int} (h : Spells s m e) {c : Char}
    (hc : c ∈ s) : isNumeralChar c = true := by
  cases h with
  | point hw hf =>
    obtain hc | rfl | hc := by simpa using hc
    · exact hw.isNumeralChar hc
    · decide
    · exact hf.isNumeralChar hc
  | power negative hw hd =>
    obtain hc | rfl | rfl | hc := by simpa using hc
    · exact hw.isNumeralChar hc
    · decide
    · cases negative <;> decide
    · exact hd.isNumeralChar hc
  | pointPower negative hw hf hd =>
    obtain hc | rfl | hc | rfl | rfl | hc := by simpa using hc
    · exact hw.isNumeralChar hc
    · decide
    · exact hf.isNumeralChar hc
    · decide
    · cases negative <;> decide
    · exact hd.isNumeralChar hc

theorem takeExponent_signed (negative : Bool) {digits : List Char} (h : IsRun digits) :
    takeExponent ('e' :: (if negative then '-' else '+') :: digits)
      = some (signed negative (valueOf 10 digits), []) := by
  have htake := takeDigits_append h.2 [] (by simp)
  rw [List.append_nil] at htake
  cases negative with
  | false => simp [takeExponent, takeSign, htake, h.1]
  | true => simp [takeExponent, takeSign, htake, h.1]

/-- A spelled numeral is read as the number nearest to what it spells. -/
theorem readUnsigned_of_spells {s : List Char} {m : Nat} {e : Int} (h : Spells s m e)
    (negative : Bool) : readUnsigned negative s = some (.ofDecimal negative m e) := by
  cases h with
  | point hw hf =>
    rename_i whole fraction
    have htake := takeDigits_append hf.2 [] (by simp)
    rw [List.append_nil] at htake
    have hwhole := takeDigits_append hw.2 ('.' :: fraction) (by simp; decide)
    simp [readUnsigned, hwhole, htake, hw.1]
  | power below hw hd =>
    rename_i whole digits
    have hwhole := takeDigits_append hw.2
      ('e' :: (if below then '-' else '+') :: digits) (by simp; decide)
    have hpower := takeExponent_signed below hd
    simp [readUnsigned, hwhole, hpower, hw.1]
  | pointPower below hw hf hd =>
    rename_i whole fraction digits
    have hfraction := takeDigits_append hf.2
      ('e' :: (if below then '-' else '+') :: digits) (by simp; decide)
    have hwhole := takeDigits_append hw.2
      ('.' :: (fraction ++ 'e' :: (if below then '-' else '+') :: digits)) (by simp; decide)
    have hpower := takeExponent_signed below hd
    simp [readUnsigned, hwhole, hfraction, hpower, hw.1]

end Retrace.Double
