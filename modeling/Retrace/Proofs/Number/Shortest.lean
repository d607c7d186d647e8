import Retrace.Proofs.Number.Rounding

/-!
# The shortest decimal lies in the interval

Every decimal that the search accepts is in the interval, and with seventeen
digits a grid is so fine that it has a point there. So the search succeeds, and
dropping trailing zeros keeps the value.
-/

namespace Retrace.Double

/-- The exact value of a decimal. -/
def Decimal.value (d : Decimal) : ℚ := d.digits * 10 ^ d.exponent

theorem decimalLE_iff (a : Nat) (p : Int) (b : Nat) (q : Int) :
    decimalLE a p b q = true ↔ (a * 10 ^ p : ℚ) ≤ b * 2 ^ q := by
  rw [zpow_eq_div 10, zpow_eq_div 2, ← mul_div_assoc, ← mul_div_assoc,
    div_le_div_iff₀ (by positivity) (by positivity), decimalLE, decide_eq_true_iff,
    ← Nat.cast_le (α := ℚ)]
  simp only [Nat.cast_mul, cast_twoTo, cast_tenTo]

theorem binaryLE_iff (b : Nat) (q : Int) (a : Nat) (p : Int) :
    binaryLE b q a p = true ↔ (b * 2 ^ q : ℚ) ≤ a * 10 ^ p := by
  rw [zpow_eq_div 10, zpow_eq_div 2, ← mul_div_assoc, ← mul_div_assoc,
    div_le_div_iff₀ (by positivity) (by positivity), binaryLE, decide_eq_true_iff,
    ← Nat.cast_le (α := ℚ)]
  simp only [Nat.cast_mul, cast_twoTo, cast_tenTo]

theorem Interval.contains_iff (i : Interval) (d : Decimal) :
    i.contains d = true ↔ i.Has d.value := by
  unfold contains Has Decimal.value
  split
  · rw [Bool.and_eq_true, binaryLE_iff, decimalLE_iff]
  · rw [Bool.and_eq_true, Bool.not_eq_true', Bool.not_eq_true', ← Bool.not_eq_true,
      ← Bool.not_eq_true, binaryLE_iff, decimalLE_iff, not_le, not_le]

theorem Interval.has_of_lt {i : Interval} {x : ℚ} (hlow : i.low * 2 ^ i.exponent < x)
    (hhigh : x < i.high * 2 ^ i.exponent) : i.Has x := by
  unfold Has
  split
  · exact ⟨hlow.le, hhigh.le⟩
  · exact ⟨hlow, hhigh⟩

/-! ## Trailing zeros -/

theorem Decimal.value_trim (fuel : Nat) (d : Decimal) : (d.trim fuel).value = d.value := by
  induction fuel generalizing d with
  | zero => rfl
  | succ fuel ih =>
    rw [trim]
    split
    case isFalse => rfl
    case isTrue h =>
      rw [ih]
      have hmod : d.digits % 10 = 0 := by simpa using (by simpa using h : _ ∧ _).2
      have hdigits : (d.digits : ℚ) = (d.digits / 10 : Nat) * 10 := by
        exact_mod_cast (Nat.div_mul_cancel (Nat.dvd_of_mod_eq_zero hmod)).symm
      rw [value, value, hdigits, zpow_add₀ (by norm_num)]
      ring

/-! ## The leading power -/

theorem lt_pow_decimalSize (n : Nat) : n < 10 ^ decimalSize n :=
  (Nat.length_toDigits_le_iff (by decide) Nat.length_toDigits_pos).mp le_rfl

theorem pow_decimalSize_le {n : Nat} (h : 0 < n) : 10 ^ (decimalSize n - 1) ≤ n := by
  unfold decimalSize
  by_contra hlt
  obtain hone | hlong := Nat.eq_or_lt_of_le (Nat.length_toDigits_pos (b := 10) (n := n))
  · rw [← hone] at hlt
    exact hlt h
  · have := (Nat.length_toDigits_le_iff (by decide) (by omega)).mpr (Nat.lt_of_not_le hlt)
    omega

/-- The leading power of ten is not above the quotient. -/
theorem pow_leadingPower_le {num den : Nat} (hnum : 0 < num) (hden : 0 < den) :
    (10 : ℚ) ^ leadingPower num den ≤ num / den := by
  have hnum' : (0 : ℚ) < num := by exact_mod_cast hnum
  have hden' : (0 : ℚ) < den := by exact_mod_cast hden
  unfold leadingPower
  split
  case isTrue h =>
    have hquotient : 0 < num / den := Nat.div_pos h hden
    have hsize : 0 < decimalSize (num / den) := Nat.length_toDigits_pos
    have hpower : ((decimalSize (num / den) : Int) - 1) = (decimalSize (num / den) - 1 : Nat) := by
      omega
    rw [hpower, zpow_natCast, le_div_iff₀ hden']
    have := Nat.mul_le_mul_right den (pow_decimalSize_le hquotient)
    exact_mod_cast this.trans (Nat.div_mul_le_self num den)
  case isFalse h =>
    have hceil : den ≤ num * 10 ^ decimalSize ((den + num - 1) / num - 1) := by
      have hlt := lt_pow_decimalSize ((den + num - 1) / num - 1)
      generalize 10 ^ decimalSize ((den + num - 1) / num - 1) = bound at *
      have hdivision := Nat.div_add_mod (den + num - 1) num
      have hmod := Nat.mod_lt (den + num - 1) hnum
      have := Nat.mul_le_mul_left num (show (den + num - 1) / num ≤ bound by omega)
      omega
    rw [zpow_neg, zpow_natCast, inv_le_comm₀ (by positivity) (by positivity), inv_div,
      div_le_iff₀ hnum', mul_comm]
    exact_mod_cast hceil

/-! ## The grid -/

theorem floor_bounds (num : Nat) {den : Nat} (hden : 0 < den) :
    ((num / den : Nat) : ℚ) ≤ num / den ∧ (num / den : ℚ) < (num / den : Nat) + 1 := by
  have hden' : (0 : ℚ) < den := by exact_mod_cast hden
  constructor
  · rw [le_div_iff₀ hden']
    exact_mod_cast Nat.div_mul_le_self num den
  · rw [div_lt_iff₀ hden']
    exact_mod_cast Nat.lt_mul_of_div_lt (Nat.lt_succ_self _) hden

/-- The two points of a grid next to the number. -/
theorem onGrid_eq (i : Interval) (m : Nat) (e power : Int) :
    ∃ q : Nat, (q * 10 ^ power : ℚ) ≤ m * 2 ^ e ∧ (m * 2 ^ e : ℚ) < (q + 1) * 10 ^ power ∧
      (∀ d, onGrid i m e power = some d → i.contains d = true) ∧
      (i.contains ⟨q, power⟩ = true ∨ i.contains ⟨q + 1, power⟩ = true →
        (onGrid i m e power).isSome = true) := by
  let n := (scale m 1 (-e)).1 * tenTo (-power).toNat
  let d := (scale m 1 (-e)).2 * tenTo power.toNat
  have hd : 0 < d := Nat.mul_pos (scale_den_pos _ Nat.one_pos _) (Nat.pow_pos (by decide))
  have hpower : (0 : ℚ) < 10 ^ power := by positivity
  have hvalue : (n : ℚ) / d = m * 2 ^ e / 10 ^ power := by
    have hscale := scale_value m 1 (-e)
    simp only [n, d, Nat.cast_mul, cast_tenTo]
    rw [mul_div_mul_comm, hscale, zpow_eq_div 10, zpow_neg]
    field_simp
    simp
  obtain ⟨hlow, hhigh⟩ := floor_bounds n hd
  rw [hvalue] at hlow hhigh
  refine ⟨n / d, (le_div_iff₀ hpower).mp hlow, (div_lt_iff₀ hpower).mp hhigh, ?_, ?_⟩
  · intro found h
    simp only [onGrid] at h
    grind
  · intro h
    simp only [onGrid]
    grind

/-! ## Seventeen digits -/

/-- A grid whose step is small against the number has a point in the interval next to it. -/
theorem contains_of_step {m q : Nat} {e power : Int} (hm : 0 < m) (hmax : m < 2 ^ 53)
    (hstep : (10 : ℚ) ^ power * 10 ^ 16 ≤ m * 2 ^ e) (hbelow : (q * 10 ^ power : ℚ) ≤ m * 2 ^ e)
    (habove : (m * 2 ^ e : ℚ) < (q + 1) * 10 ^ power) :
    (Interval.around m e).contains ⟨q, power⟩ = true ∨
      (Interval.around m e).contains ⟨q + 1, power⟩ = true := by
  have hunit : (0 : ℚ) < 2 ^ e := by positivity
  have hstep' : (0 : ℚ) < 10 ^ power := by positivity
  have hmax : (m : ℚ) ≤ 2 ^ 53 := by exact_mod_cast hmax.le
  have hhigh : ((Interval.around m e).high : ℚ) * 2 ^ (Interval.around m e).exponent
      = m * 2 ^ e + 2 ^ e / 2 := by
    simp only [Interval.around, zpow_sub_two]
    push_cast
    ring
  simp only [Interval.contains_iff, Decimal.value]
  push_cast
  by_cases hleast : m = 2 ^ 52 ∧ -1074 < e
  · -- the lower side is narrow, but the step is below a half of a unit
    have hlow : ((Interval.around m e).low : ℚ) * 2 ^ (Interval.around m e).exponent
        = m * 2 ^ e - 2 ^ e / 4 := by
      rw [Interval.low_around_of_eq hleast.1 hleast.2, hleast.1]
      simp only [Interval.around, zpow_sub_two]
      push_cast
      ring
    rw [hleast.1] at hstep
    push_cast at hstep
    right
    apply Interval.has_of_lt
    · rw [hlow]
      linarith
    · rw [hhigh]
      nlinarith
  · have hlow : ((Interval.around m e).low : ℚ) * 2 ^ (Interval.around m e).exponent
        = m * 2 ^ e - 2 ^ e / 2 := by
      rw [Interval.low_around_of_not hm hleast]
      simp only [Interval.around, zpow_sub_two]
      ring
    have hsmall : (10 : ℚ) ^ power < 2 ^ e := by nlinarith
    -- one of the two points is at most half a step away
    obtain h | h := le_total (m * 2 ^ e - q * 10 ^ power : ℚ) (10 ^ power / 2)
    · left
      apply Interval.has_of_lt
      · rw [hlow]
        linarith
      · rw [hhigh]
        linarith
    · right
      apply Interval.has_of_lt
      · rw [hlow]
        linarith
      · rw [hhigh]
        linarith

/-- The shortest decimal is in the interval of the number. -/
theorem shortest_has {m : Nat} {e : Int} (hm : 0 < m) (hmax : m < 2 ^ 53) :
    (Interval.around m e).Has (shortest m e).value := by
  let n := (scale m 1 (-e)).1
  let d := (scale m 1 (-e)).2
  let top := leadingPower n d
  let found := (List.range 17).findSome? fun (k : Nat) =>
    onGrid (Interval.around m e) m e (top - k)
  have hd : 0 < d := scale_den_pos _ Nat.one_pos _
  have hn : 0 < n := Nat.mul_pos hm (Nat.pow_pos (by decide))
  have hvalue : (n : ℚ) / d = m * 2 ^ e := by
    have hscale := scale_value m 1 (-e)
    rw [zpow_neg, div_inv_eq_mul, Nat.cast_one, div_one] at hscale
    exact hscale
  have htop : (10 : ℚ) ^ top ≤ m * 2 ^ e := hvalue ▸ pow_leadingPower_le hn hd
  have hsome : found.isSome = true := by
    obtain ⟨q, hbelow, habove, -, hgrid⟩ := onGrid_eq (Interval.around m e) m e (top - 16)
    refine List.findSome?_isSome_iff.mpr ⟨16, by simp, ?_⟩
    apply hgrid
    apply contains_of_step hm hmax _ hbelow habove
    rw [zpow_sub₀ (by norm_num)]
    norm_num
    exact htop
  obtain ⟨decimal, hdecimal⟩ := Option.isSome_iff_exists.mp hsome
  have hshortest : shortest m e = decimal.trim 20 := by
    have hm := hm.ne'
    simp only [shortest, if_neg hm]
    rw [show (List.findSome? _ _ : Option Decimal) = some decimal from hdecimal, Option.getD_some]
  rw [hshortest, Decimal.value_trim]
  obtain ⟨k, -, hk⟩ := List.exists_of_findSome?_eq_some hdecimal
  obtain ⟨_, -, -, hgrid, -⟩ := onGrid_eq (Interval.around m e) m e (top - k)
  exact (Interval.contains_iff _ _).mp (hgrid decimal hk)

end Retrace.Double
