import Mathlib.Algebra.Order.Field.Power
import Mathlib.Tactic.FieldSimp
import Mathlib.Tactic.Linarith
import Mathlib.Tactic.NormNum
import Mathlib.Tactic.Positivity
import Mathlib.Tactic.Ring
import Retrace.Number.Shortest

/-!
# Rounding a quotient

A quotient that lies in the interval of a finite number rounds to that number.
Exact values are rationals, and a power with a negative exponent is a quotient
of two whole powers.
-/

namespace Retrace.Double

/-- A power is the quotient of two whole powers, one of them one. -/
theorem zpow_eq_div (b : ℚ) (e : Int) : b ^ e = b ^ e.toNat / b ^ (-e).toNat := by
  obtain he | he := le_total 0 e
  · obtain ⟨n, rfl⟩ := Int.eq_ofNat_of_zero_le he
    simp
  · obtain ⟨n, hn⟩ := Int.eq_ofNat_of_zero_le (Int.neg_nonneg_of_nonpos he)
    obtain rfl : e = -(n : Int) := by omega
    simp

theorem cast_twoTo (n : Nat) : (twoTo n : ℚ) = 2 ^ n := by
  simp [twoTo]

theorem cast_tenTo (n : Nat) : (tenTo n : ℚ) = 10 ^ n := by
  simp [tenTo]

theorem scale_den_pos (num : Nat) {den : Nat} (h : 0 < den) (exponent : Int) :
    0 < (scale num den exponent).2 :=
  Nat.mul_pos h (Nat.pow_pos (by decide))

/-- Scaling divides the quotient by the power of two. -/
theorem scale_value (num den : Nat) (exponent : Int) :
    ((scale num den exponent).1 : ℚ) / (scale num den exponent).2
      = num / den / 2 ^ exponent := by
  simp only [scale, Nat.cast_mul, cast_twoTo]
  rw [zpow_eq_div 2 exponent]
  field_simp

theorem zpow_sub_two (e : Int) : (2 : ℚ) ^ (e - 2) = 2 ^ e / 4 := by
  rw [zpow_sub₀ (by norm_num)]
  norm_num

theorem zpow_le_pow_mul {e f : Int} {k : Nat} (h : f ≤ k + e) : (2 : ℚ) ^ f ≤ 2 ^ k * 2 ^ e := by
  rw [← zpow_natCast, ← zpow_add₀ (by norm_num)]
  exact zpow_le_zpow_right₀ (by norm_num) h

theorem pow_mul_le_zpow {e f : Int} {k : Nat} (h : k + e ≤ f) : (2 : ℚ) ^ k * 2 ^ e ≤ 2 ^ f := by
  rw [← zpow_natCast, ← zpow_add₀ (by norm_num)]
  exact zpow_le_zpow_right₀ (by norm_num) h

/-! ## The nearest whole number -/

theorem roundQuotient_eq_of_le {num den m : Nat} (hlow : 2 * m * den ≤ 2 * num + den)
    (hhigh : 2 * num ≤ 2 * m * den + den)
    (htie : 2 * m * den = 2 * num + den ∨ 2 * num = 2 * m * den + den → m % 2 = 0)
    (hd : 0 < den) : roundQuotient num den = m := by
  have hnum := Nat.div_add_mod num den
  have hr := Nat.mod_lt num hd
  unfold roundQuotient
  dsimp only
  generalize num / den = q at *
  generalize num % den = r at *
  subst hnum
  have hlower : q ≤ m := by
    by_contra h
    have := Nat.mul_le_mul_right den (Nat.lt_of_not_le h)
    nlinarith
  have hupper : m ≤ q + 1 := by
    by_contra h
    have := Nat.mul_le_mul_right den (Nat.lt_of_not_le h)
    nlinarith
  obtain rfl | rfl : m = q ∨ m = q + 1 := by omega
  · have hhalf : 2 * r ≤ den := by nlinarith
    split_ifs with h1 h2
    · rfl
    · omega
    · have := htie (Or.inr (by nlinarith))
      omega
  · have hhalf : den ≤ 2 * r := by nlinarith
    split_ifs with h1 h2
    · omega
    · rfl
    · have := htie (Or.inl (by nlinarith))
      omega

/-- A quotient within a half of a whole number rounds to it; at a half it must be even. -/
theorem roundQuotient_eq {num den m : Nat} (hd : 0 < den) (hnear : |(num : ℚ) / den - m| ≤ 1 / 2)
    (htie : |(num : ℚ) / den - m| = 1 / 2 → m % 2 = 0) : roundQuotient num den = m := by
  have hpos : (0 : ℚ) < den := by exact_mod_cast hd
  obtain ⟨hlow, hhigh⟩ := abs_le.mp hnear
  refine roundQuotient_eq_of_le ?_ ?_ ?_ hd
  · have : (m - 1 / 2 : ℚ) ≤ num / den := by linarith
    rw [le_div_iff₀ hpos] at this
    have : (2 * m * den : ℚ) ≤ 2 * num + den := by linarith
    exact_mod_cast this
  · have : (num : ℚ) / den ≤ m + 1 / 2 := by linarith
    rw [div_le_iff₀ hpos] at this
    have : (2 * num : ℚ) ≤ 2 * m * den + den := by linarith
    exact_mod_cast this
  · rintro (h | h)
    · have h : (2 * m * den : ℚ) = 2 * num + den := by exact_mod_cast h
      have : (num : ℚ) / den - m = -(1 / 2) := by field_simp; linarith
      exact htie (by rw [this]; norm_num)
    · have h : (2 * num : ℚ) = 2 * m * den + den := by exact_mod_cast h
      have : (num : ℚ) / den - m = 1 / 2 := by field_simp; linarith
      exact htie (by rw [this]; norm_num)

/-! ## The exponent -/

theorem log2_bounds {n : Nat} (h : n ≠ 0) :
    (2 : ℚ) ^ (n.log2 : Int) ≤ n ∧ (n : ℚ) < 2 ^ ((n.log2 : Int) + 1) := by
  constructor
  · rw [zpow_natCast]
    exact_mod_cast Nat.log2_self_le h
  · have : (n : ℚ) < 2 ^ (n.log2 + 1) := by exact_mod_cast Nat.lt_log2_self
    exact_mod_cast this

/-- A quotient is between two powers of two next to the difference of the logarithms. -/
theorem quotient_bounds {num den : Nat} (hnum : num ≠ 0) (hden : den ≠ 0) :
    (2 : ℚ) ^ ((num.log2 : Int) - den.log2 - 1) < num / den ∧
      (num : ℚ) / den < 2 ^ ((num.log2 : Int) - den.log2 + 1) := by
  obtain ⟨hnlow, hnhigh⟩ := log2_bounds hnum
  obtain ⟨hdlow, hdhigh⟩ := log2_bounds hden
  have hdpos : (0 : ℚ) < den := by exact_mod_cast Nat.pos_of_ne_zero hden
  constructor
  · rw [lt_div_iff₀ hdpos]
    calc (2 : ℚ) ^ ((num.log2 : Int) - den.log2 - 1) * den
        < 2 ^ ((num.log2 : Int) - den.log2 - 1) * 2 ^ ((den.log2 : Int) + 1) := by gcongr
      _ = 2 ^ (num.log2 : Int) := by
        rw [← zpow_add₀ (by norm_num)]
        congr 1
        omega
      _ ≤ num := hnlow
  · rw [div_lt_iff₀ hdpos]
    calc (num : ℚ) < 2 ^ ((num.log2 : Int) + 1) := hnhigh
      _ = 2 ^ ((num.log2 : Int) - den.log2 + 1) * 2 ^ (den.log2 : Int) := by
        rw [← zpow_add₀ (by norm_num)]
        congr 1
        omega
      _ ≤ 2 ^ ((num.log2 : Int) - den.log2 + 1) * den := by gcongr

/-- The exponent under which a quotient is rounded leaves 53 bits, or is the least. -/
theorem ofRatio_eq_ofMantissa (negative : Bool) {num den : Nat} (hnum : num ≠ 0) (hden : den ≠ 0) :
    ∃ exponent : Int, -1074 ≤ exponent ∧ (num : ℚ) / den < 2 ^ (exponent + 53) ∧
      (exponent = -1074 ∨ (2 : ℚ) ^ (exponent + 52) ≤ num / den) ∧
      ofRatio negative num den = ofMantissa negative
        (roundQuotient (scale num den exponent).1 (scale num den exponent).2) exponent := by
  obtain ⟨hlow, hhigh⟩ := quotient_bounds hnum hden
  let guess : Int := (num.log2 : Int) - den.log2 - 52
  let least := scale num den guess
  let exponent := if least.1 < least.2 * twoTo 52 then guess - 1 else guess
  -- the guess is right or one too high
  have hexponent : (num : ℚ) / den < 2 ^ (exponent + 53) ∧
      (2 : ℚ) ^ (exponent + 52) ≤ num / den := by
    have hpos : (0 : ℚ) < least.2 := by
      exact_mod_cast scale_den_pos num (Nat.pos_of_ne_zero hden) guess
    have hvalue : (least.1 : ℚ) / least.2 = num / den / 2 ^ guess := scale_value num den guess
    have hpower : (0 : ℚ) < 2 ^ guess := by positivity
    by_cases h : least.1 < least.2 * twoTo 52
    · have hbelow : (least.1 : ℚ) < least.2 * 2 ^ 52 := by
        rw [← cast_twoTo]
        exact_mod_cast h
      rw [← div_lt_iff₀' hpos, hvalue, div_lt_iff₀ hpower] at hbelow
      simp only [exponent, if_pos h]
      constructor
      · rw [show guess - 1 + 53 = 52 + guess by ring, zpow_add₀ (by norm_num)]
        exact_mod_cast hbelow
      · rw [show guess - 1 + 52 = (num.log2 : Int) - den.log2 - 1 by simp only [guess]; ring]
        exact hlow.le
    · have habove : (least.2 * 2 ^ 52 : ℚ) ≤ least.1 := by
        rw [← cast_twoTo]
        exact_mod_cast Nat.le_of_not_lt h
      rw [← le_div_iff₀' hpos, hvalue, le_div_iff₀ hpower] at habove
      simp only [exponent, if_neg h]
      constructor
      · rw [show guess + 53 = (num.log2 : Int) - den.log2 + 1 by simp only [guess]; ring]
        exact hhigh
      · rw [show guess + 52 = 52 + guess by ring, zpow_add₀ (by norm_num)]
        exact_mod_cast habove
  refine ⟨max exponent (-1074), le_max_right _ _, ?_, ?_, ?_⟩
  · apply hexponent.1.trans_le
    apply zpow_le_zpow_right₀ (by norm_num)
    have := le_max_left exponent (-1074)
    omega
  · obtain h | h := le_total exponent (-1074)
    · exact Or.inl (max_eq_right h)
    · rw [max_eq_left h]
      exact Or.inr hexponent.2
  · rw [ofRatio, if_neg hnum]

/-! ## The interval of a number -/

/-- Mantissa and exponent of a finite number, as its bits hold them. -/
structure IsParts (mantissa : Nat) (exponent : Int) : Prop where
  mantissa_lt : mantissa < 2 ^ 53
  least : -1074 ≤ exponent
  most : exponent ≤ 971
  normal : exponent = -1074 ∨ 2 ^ 52 ≤ mantissa

/-- The interval holds a rational; its ends only if it is closed. -/
def Interval.Has (i : Interval) (x : ℚ) : Prop :=
  if i.closed then i.low * 2 ^ i.exponent ≤ x ∧ x ≤ i.high * 2 ^ i.exponent
  else i.low * 2 ^ i.exponent < x ∧ x < i.high * 2 ^ i.exponent

section Around

variable {m : Nat} {e : Int} {x : ℚ}

/-- The interval in units of the last place, the lower end aside. -/
theorem Interval.Has.units (h : (Interval.around m e).Has x) :
    ((Interval.around m e).low : ℚ) / 4 ≤ x / 2 ^ e ∧ x / 2 ^ e ≤ m + 1 / 2 ∧
      (((Interval.around m e).low : ℚ) / 4 = x / 2 ^ e ∨ x / 2 ^ e = m + 1 / 2 → m % 2 = 0) := by
  have hpower : (0 : ℚ) < 2 ^ e := by positivity
  have hhigh : ((Interval.around m e).high : ℚ) = 4 * m + 2 := by simp [around]
  have hexponent : (Interval.around m e).exponent = e - 2 := rfl
  obtain ⟨y, rfl⟩ : ∃ y, x = y * 2 ^ e := ⟨x / 2 ^ e, (div_mul_cancel₀ x hpower.ne').symm⟩
  unfold Has at h
  rw [hexponent, zpow_sub_two, hhigh] at h
  rw [mul_div_cancel_right₀ y hpower.ne']
  generalize ((Interval.around m e).low : ℚ) = low at *
  have hlow : low * (2 ^ e / 4) = low / 4 * 2 ^ e := by ring
  have hhigh : (4 * m + 2 : ℚ) * (2 ^ e / 4) = (m + 1 / 2) * 2 ^ e := by ring
  rw [hlow, hhigh] at h
  split at h
  case isTrue hclosed =>
    obtain ⟨hl, hh⟩ := h
    refine ⟨le_of_mul_le_mul_right hl hpower, le_of_mul_le_mul_right hh hpower, ?_⟩
    intro _
    simpa [around] using hclosed
  case isFalse =>
    obtain ⟨hl, hh⟩ := h
    have hl := lt_of_mul_lt_mul_right hl hpower.le
    have hh := lt_of_mul_lt_mul_right hh hpower.le
    refine ⟨hl.le, hh.le, ?_⟩
    rintro (h | h)
    · exact absurd h hl.ne
    · exact absurd h hh.ne

theorem Interval.low_around (hm : 0 < m) : (4 * m - 2 : ℚ) ≤ (Interval.around m e).low := by
  have h : 4 * m ≤ (Interval.around m e).low + 2 := by
    simp only [around]
    split <;> omega
  have h : (4 * m : ℚ) ≤ (Interval.around m e).low + 2 := by exact_mod_cast h
  linarith

theorem Interval.low_around_of_eq (hm : m = 2 ^ 52) (he : -1074 < e) :
    ((Interval.around m e).low : ℚ) = 2 ^ 54 - 1 := by
  subst hm
  simp [around, twoTo, he]
  norm_num

theorem Interval.low_around_of_not (hm : 0 < m) (h : ¬(m = 2 ^ 52 ∧ -1074 < e)) :
    ((Interval.around m e).low : ℚ) = 4 * m - 2 := by
  have h : ¬(decide (m = twoTo 52) && decide (-1074 < e)) = true := by
    rwa [Bool.and_eq_true, decide_eq_true_iff, decide_eq_true_iff]
  have hlow : (Interval.around m e).low + 2 = 4 * m := by
    simp only [around, if_neg h]
    omega
  rw [eq_sub_iff_add_eq]
  exact_mod_cast hlow

/-- A rational of the interval is within half a unit of the number. -/
theorem Interval.Has.near (h : (Interval.around m e).Has x) (hm : 0 < m) :
    |x / 2 ^ e - m| ≤ 1 / 2 ∧ (|x / 2 ^ e - m| = 1 / 2 → m % 2 = 0) := by
  obtain ⟨hlow, hhigh, htie⟩ := h.units
  have hend := Interval.low_around (e := e) hm
  constructor
  · apply abs_le.mpr
    constructor <;> linarith
  · intro hhalf
    obtain h | h := (abs_eq (by norm_num)).mp hhalf
    · exact htie (Or.inr (by linarith))
    · exact htie (Or.inl (le_antisymm hlow (by linarith)))

/-- The mantissa of a whole power of two, doubled: rounded from below it overflows. -/
theorem Interval.Has.doubled (h : (Interval.around m e).Has x) (hm : m = 2 ^ 52)
    (he : -1074 < e) (hbelow : x / 2 ^ e < 2 ^ 52) :
    |x / 2 ^ (e - 1) - (2 ^ 53 : Nat)| ≤ 1 / 2 := by
  have hdouble : x / 2 ^ (e - 1) = 2 * (x / 2 ^ e) := by
    rw [zpow_sub₀ (by norm_num)]
    field_simp
  obtain ⟨hlow, -, -⟩ := h.units
  rw [Interval.low_around_of_eq hm he] at hlow
  rw [hdouble, abs_le]
  push_cast
  exact ⟨by linarith, by linarith⟩

end Around

theorem ofMantissa_doubled (negative : Bool) {e : Int} :
    ofMantissa negative (2 ^ 53) (e - 1) = ofMantissa negative (2 ^ 52) e := by
  simp [ofMantissa, twoTo]

/-- A quotient in the interval of a finite number that is not zero rounds to it. -/
theorem ofRatio_eq_of_has {m num den : Nat} {e : Int} (hp : IsParts m e) (hm : 0 < m)
    (hden : den ≠ 0) (h : (Interval.around m e).Has (num / den)) (negative : Bool) :
    ofRatio negative num den = ofMantissa negative m e := by
  have hpower : (0 : ℚ) < 2 ^ e := by positivity
  obtain ⟨hnear, htie⟩ := h.near hm
  obtain ⟨hlow, hhigh⟩ := abs_le.mp hnear
  have hmlow : (1 : ℚ) ≤ m := by exact_mod_cast hm
  have hmhigh : (m : ℚ) + 1 ≤ 2 ^ 53 := by exact_mod_cast hp.mantissa_lt
  have hnum : num ≠ 0 := by
    rintro rfl
    simp at hlow
    linarith
  obtain ⟨exponent, hleast, htop, hbottom, heq⟩ := ofRatio_eq_ofMantissa negative hnum hden
  have hpos := scale_den_pos num (Nat.pos_of_ne_zero hden) exponent
  rw [heq]
  have hwhole : (num : ℚ) / den / 2 ^ e ≤ 2 ^ 53 - 1 / 2 := by linarith
  rw [div_le_iff₀ hpower] at hwhole
  obtain hlt | rfl | hgt := lt_trichotomy exponent e
  · -- one binary order below: only the least mantissa has quotients there
    have hnormal : (2 : ℚ) ^ 52 ≤ m := by
      obtain h | h := hp.normal
      · omega
      · exact_mod_cast h
    have hbelow : (num : ℚ) / den / 2 ^ e < 2 ^ 52 := by
      rw [div_lt_iff₀ hpower]
      apply htop.trans_le
      exact zpow_le_pow_mul (by omega)
    have hm : m = 2 ^ 52 := by
      have : (m : ℚ) < 2 ^ 52 + 1 := by linarith
      have : m < 2 ^ 52 + 1 := by exact_mod_cast this
      have : 2 ^ 52 ≤ m := by exact_mod_cast hnormal
      omega
    have hexponent : exponent = e - 1 := by
      by_contra hne
      have hsmall : (num : ℚ) / den < 2 ^ 51 * 2 ^ e := by
        apply htop.trans_le
        exact zpow_le_pow_mul (by omega)
      rw [← div_lt_iff₀ hpower] at hsmall
      linarith
    subst hexponent
    have hround : roundQuotient (scale num den (e - 1)).1 (scale num den (e - 1)).2 = 2 ^ 53 := by
      have hdoubled := h.doubled hm (by omega) hbelow
      rw [← scale_value] at hdoubled
      exact roundQuotient_eq hpos hdoubled fun _ => by norm_num
    rw [hround, hm, ofMantissa_doubled]
  · rw [← scale_value] at hnear htie
    rw [roundQuotient_eq hpos hnear htie]
  · -- one binary order above: no quotient of the interval reaches it
    exfalso
    obtain h | h := hbottom
    · have := hp.least
      omega
    · have hlarge : (2 : ℚ) ^ 53 * 2 ^ e ≤ num / den := by
        calc
          (2 : ℚ) ^ 53 * 2 ^ e ≤ 2 ^ (exponent + 52) := pow_mul_le_zpow (by omega)
          _ ≤ num / den := h
      nlinarith

end Retrace.Double
