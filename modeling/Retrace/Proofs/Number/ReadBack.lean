import Retrace.Proofs.Number.Layout
import Retrace.Proofs.Number.Shortest

/-!
# Written numbers read back

The text of a finite number in the standard layout is read as that number: the
shortest decimal is in the interval of the number, the layout spells it, and a
quotient of the interval rounds to the number.
-/

namespace Retrace.Double

open Numeral

/-! ## The bits -/

theorem isNegative_iff (x : Double) : x.isNegative = true ↔ x.bits.toNat / 2 ^ 63 % 2 = 1 :=
  decide_eq_true_iff

/-- Sign, biased exponent and fraction determine the bits. -/
theorem ofParts_of_bits (x : Double) :
    ofParts x.isNegative (x.bits.toNat / twoTo 52 % twoTo 11) (x.bits.toNat % twoTo 52) = x := by
  have hlt : x.bits.toNat < 2 ^ 64 := x.bits.toNat_lt
  have hsign := isNegative_iff x
  obtain ⟨bits⟩ := x
  apply congrArg Double.mk
  apply UInt64.toNat_inj.mp
  rw [UInt64.toNat_ofNat']
  simp only [twoTo] at *
  generalize bits.toNat = b at *
  cases hnegative : isNegative ⟨bits⟩ with
  | true =>
    rw [hnegative] at hsign
    norm_num at *
    omega
  | false =>
    rw [hnegative] at hsign
    norm_num at *
    omega

/-- The view of a finite number is its mantissa and exponent, and they give the number back. -/
theorem of_view_finite {x : Double} {negative : Bool} {m : Nat} {e : Int}
    (h : x.view = .finite negative m e) : IsParts m e ∧ ofMantissa negative m e = x := by
  have hbits := ofParts_of_bits x
  have hfraction : x.bits.toNat % twoTo 52 < 2 ^ 52 := Nat.mod_lt _ (by decide)
  have hbiased : x.bits.toNat / twoTo 52 % twoTo 11 < 2 ^ 11 := Nat.mod_lt _ (by decide)
  simp only [view] at h
  generalize x.bits.toNat / twoTo 52 % twoTo 11 = biased at *
  generalize x.bits.toNat % twoTo 52 = fraction at *
  split at h
  · split at h <;> cases h
  split at h
  case isTrue hzero =>
    cases h
    subst hzero
    refine ⟨⟨by omega, by omega, by omega, Or.inl rfl⟩, ?_⟩
    rw [ofMantissa, if_pos (by simpa [twoTo] using hfraction)]
    exact hbits
  case isFalse hspecial hzero =>
    cases h
    have h52 : twoTo 52 = 2 ^ 52 := rfl
    have h53 : twoTo 53 = 2 ^ 53 := rfl
    refine ⟨⟨by omega, by omega, by omega, Or.inr (by omega)⟩, ?_⟩
    have hlow : ¬twoTo 52 + fraction < twoTo 52 := by omega
    have hhigh : ¬twoTo 52 + fraction = twoTo 53 := by omega
    have hrange : ¬(972 : Int) ≤ (biased : Int) - 1075 := by omega
    have hback : ((biased : Int) - 1075 + 1075).toNat = biased := by omega
    rw [ofMantissa, if_neg hlow, if_neg hhigh]
    dsimp only
    rw [if_neg hrange, hback, Nat.add_sub_cancel_left]
    exact hbits

/-! ## Reading a decimal -/

theorem least_power_lt : (10 : ℚ) ^ (-340 : Int) < 2 ^ (-1075 : Int) := by
  have h : (2 : Nat) ^ 1075 < 10 ^ 340 := by decide +kernel
  have h : (2 : ℚ) ^ 1075 < 10 ^ 340 := by exact_mod_cast h
  rw [show (-340 : Int) = -(340 : Nat) from rfl, show (-1075 : Int) = -(1075 : Nat) from rfl,
    zpow_neg, zpow_neg, zpow_natCast, zpow_natCast]
  exact inv_strictAnti₀ (by positivity) h

theorem most_power_lt : (2 : ℚ) ^ (1024 : Int) < 10 ^ (320 : Int) := by
  have h : (2 : Nat) ^ 1024 < 10 ^ 320 := by decide +kernel
  exact_mod_cast h

/-- A decimal of the interval stays between the bounds that spare the work. -/
theorem size_of_has {m D : Nat} {e p : Int} (hp : IsParts m e) (hm : 0 < m) (hD : D ≠ 0)
    (h : (Interval.around m e).Has (D * 10 ^ p)) :
    -340 ≤ p + decimalSize D ∧ p + decimalSize D ≤ 320 := by
  have hpower : (0 : ℚ) < 2 ^ e := by positivity
  have hten : (0 : ℚ) < 10 ^ p := by positivity
  have hone : (1 : ℚ) ≤ m := by exact_mod_cast hm
  have hmax : (m : ℚ) + 1 ≤ 2 ^ 53 := by exact_mod_cast hp.mantissa_lt
  obtain ⟨hnear, -⟩ := h.near hm
  obtain ⟨hlow, hhigh⟩ := abs_le.mp hnear
  have hlow : ((2 : ℚ) ^ (-1 : Int)) ≤ D * 10 ^ p / 2 ^ e := by
    rw [zpow_neg_one]
    linarith
  have hhigh : (D * 10 ^ p / 2 ^ e : ℚ) ≤ 2 ^ (53 : Int) := by
    have hcast : (2 : ℚ) ^ (53 : Int) = 2 ^ 53 := rfl
    linarith
  rw [le_div_iff₀ hpower, ← zpow_add₀ (by norm_num)] at hlow
  rw [div_le_iff₀ hpower, ← zpow_add₀ (by norm_num)] at hhigh
  have hsize : 0 < decimalSize D := Nat.length_toDigits_pos
  constructor
  · by_contra hout
    have hdigits : (D : ℚ) < 10 ^ (decimalSize D : Int) := by
      rw [zpow_natCast]
      exact_mod_cast lt_pow_decimalSize D
    have hleast : (2 : ℚ) ^ (-1075 : Int) ≤ 2 ^ (-1 + e) := by
      have := hp.least
      exact zpow_le_zpow_right₀ (by norm_num) (by omega)
    have htiny : (D * 10 ^ p : ℚ) < 10 ^ (-340 : Int) := by
      calc (D * 10 ^ p : ℚ) < 10 ^ (decimalSize D : Int) * 10 ^ p := by gcongr
        _ = 10 ^ (decimalSize D + p) := (zpow_add₀ (by norm_num) _ _).symm
        _ ≤ 10 ^ (-340 : Int) := zpow_le_zpow_right₀ (by norm_num) (by omega)
    exact absurd (hleast.trans hlow) (htiny.trans least_power_lt).not_ge
  · by_contra hout
    have hdigits : (10 : ℚ) ^ ((decimalSize D : Int) - 1) ≤ D := by
      rw [show ((decimalSize D : Int) - 1) = (decimalSize D - 1 : Nat) by omega, zpow_natCast]
      exact_mod_cast pow_decimalSize_le (Nat.pos_of_ne_zero hD)
    have hmost : (2 : ℚ) ^ (53 + e) ≤ 2 ^ (1024 : Int) := by
      have := hp.most
      exact zpow_le_zpow_right₀ (by norm_num) (by omega)
    have hhuge : (10 : ℚ) ^ (320 : Int) ≤ D * 10 ^ p := by
      calc (10 : ℚ) ^ (320 : Int) ≤ 10 ^ ((decimalSize D : Int) - 1 + p) :=
            zpow_le_zpow_right₀ (by norm_num) (by omega)
        _ = 10 ^ ((decimalSize D : Int) - 1) * 10 ^ p := zpow_add₀ (by norm_num) _ _
        _ ≤ D * 10 ^ p := by gcongr
    exact absurd (hhigh.trans hmost) (most_power_lt.trans_le hhuge).not_ge

/-- A decimal of the interval of a number is read as that number. -/
theorem ofDecimal_of_has {m D : Nat} {e p : Int} (hp : IsParts m e) (hm : 0 < m)
    (h : (Interval.around m e).Has (D * 10 ^ p)) (negative : Bool) :
    ofDecimal negative D p = ofMantissa negative m e := by
  have hD : D ≠ 0 := by
    rintro rfl
    have hone : (1 : ℚ) ≤ m := by exact_mod_cast hm
    have hlow := (abs_le.mp (h.near hm).1).1
    simp at hlow
    linarith
  obtain ⟨hsmall, hlarge⟩ := size_of_has hp hm hD h
  rw [ofDecimal, if_neg hD]
  dsimp only
  rw [if_neg (by omega), if_neg (by omega)]
  apply ofRatio_eq_of_has hp hm (Nat.pow_pos (by decide)).ne'
  rw [zpow_eq_div 10, ← mul_div_assoc] at h
  simpa [cast_tenTo] using h

/-! ## The standard layout -/

/-- The text of a finite number, its sign aside, is read as the number with that sign. -/
theorem readUnsigned_write {x : Double} {negative : Bool} {m : Nat} {e : Int}
    (h : x.view = .finite negative m e) :
    readUnsigned negative (Layout.standard.write (shortest m e)) = some x := by
  obtain ⟨hp, hx⟩ := of_view_finite h
  obtain ⟨k, hspells⟩ := spells_write (shortest m e)
  rw [readUnsigned_of_spells hspells, ← hx]
  congr 1
  obtain rfl | hm := Nat.eq_zero_or_pos m
  · simp [shortest, ofDecimal, ofMantissa, zero, twoTo]
  · apply ofDecimal_of_has hp hm
    have hvalue : (((shortest m e).digits * 10 ^ k : Nat) : ℚ) * 10 ^ ((shortest m e).exponent - k)
        = (shortest m e).value := by
      rw [Decimal.value, zpow_sub₀ (by norm_num), zpow_natCast]
      push_cast
      field_simp
    rw [hvalue]
    exact shortest_has hm hp.mantissa_lt

end Retrace.Double
