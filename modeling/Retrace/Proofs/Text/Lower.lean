import Retrace.Text.Lower

/-!
# Lower case

A text that holds neither of the two characters whose lower case is no character
of its own is lowered character by character. Of the characters before the
letters with accents only the plain capitals change.

A lowered text holds no character that changes in lower case, so lowering it a
second time leaves it as it is. The table says so by itself: none of its rows
leads to a code point that it shifts.
-/

namespace Retrace.Text

variable {s : List Char} {c : Char} {n : Nat}

/-! ## One character -/

/-- What a character becomes, by whether cased ones come before it and after it. -/
def lowerIn (before after : Bool) (c : Char) : List Char :=
  if c = 'Σ' then [if before && !after then 'ς' else 'σ']
  else if c = 'İ' then ['i', '\u0307']
  else [lowerChar c]

theorem lowerFrom_cons (before : List Char) (c : Char) (rest : List Char) :
    lowerFrom before (c :: rest)
      = lowerIn (nextIsCased before) (nextIsCased rest) c ++ lowerFrom (c :: before) rest := rfl

theorem lowerIn_of_ne (h : c ≠ 'Σ' ∧ c ≠ 'İ') (before after : Bool) :
    lowerIn before after c = [lowerChar c] := by
  rw [lowerIn, if_neg h.1, if_neg h.2]

theorem lowerFrom_eq_map (h : ∀ c ∈ s, c ≠ 'Σ' ∧ c ≠ 'İ') (before : List Char) :
    lowerFrom before s = s.map lowerChar := by
  induction s generalizing before with
  | nil => rfl
  | cons c s ih =>
    obtain ⟨hc, hrest⟩ := List.forall_mem_cons.mp h
    rw [lowerFrom_cons, lowerIn_of_ne hc, ih hrest]
    rfl

theorem lower_eq_map (h : ∀ c ∈ s, c ≠ 'Σ' ∧ c ≠ 'İ') : lower s = s.map lowerChar :=
  lowerFrom_eq_map h []

/-! ## Rows of the table -/

/-- A code point is one of those that a row is about. -/
def IsShiftedBy (row : Nat × Nat × Nat × Int) (n : Nat) : Prop :=
  row.1 ≤ n ∧ n ≤ row.2.1 ∧ (n - row.1) % row.2.2.1 = 0

/-- Where a row leads from a code point. -/
def target (row : Nat × Nat × Nat × Int) (n : Nat) : Nat := (n + row.2.2.2).toNat

theorem lowerChar_of_not_isShiftedBy (h : ∀ row ∈ lowerShifts, ¬ IsShiftedBy row c.toNat) :
    lowerChar c = c := by
  have hnone : lowerShifts.find?
      (fun r => r.1 ≤ c.toNat && c.toNat ≤ r.2.1 && (c.toNat - r.1) % r.2.2.1 == 0) = none := by
    rw [List.find?_eq_none]
    intro row hrow
    simpa [IsShiftedBy, and_assoc] using h row hrow
  rw [lowerChar, hnone]

theorem lowerChar_cases (c : Char) : lowerChar c = c ∨ ∃ row ∈ lowerShifts,
    IsShiftedBy row c.toNat ∧ lowerChar c = Char.ofNat (target row c.toNat) := by
  rw [lowerChar]
  split
  · next row hfind =>
    have hrow := List.find?_some hfind
    simp only [Bool.and_eq_true, decide_eq_true_eq, beq_iff_eq, and_assoc] at hrow
    exact .inr ⟨row, List.mem_of_find?_eq_some hfind, hrow, rfl⟩
  · exact .inl rfl

theorem lowerChar_eq_self (hc : c.toNat < 0xc0)
    (hcapital : ¬ (0x41 ≤ c.toNat ∧ c.toNat ≤ 0x5a)) : lowerChar c = c := by
  have hrows : ∀ row ∈ lowerShifts, row.1 = 0x41 ∧ row.2.1 = 0x5a ∨ 0xc0 ≤ row.1 := by
    decide +kernel
  apply lowerChar_of_not_isShiftedBy
  rintro row hrow ⟨hfirst, hlast, -⟩
  have := hrows row hrow
  omega

/-- The code points that a row leads to are those of characters. -/
def LeadsToChars (row : Nat × Nat × Nat × Int) : Prop :=
  0 ≤ row.1 + row.2.2.2 ∧ (row.2.1 + row.2.2.2 < 0xd800
    ∨ 0xdfff < row.1 + row.2.2.2 ∧ row.2.1 + row.2.2.2 < 0x110000)

instance (row : Nat × Nat × Nat × Int) : Decidable (LeadsToChars row) :=
  inferInstanceAs (Decidable (_ ∧ _))

/-- A row leads past the ends of another one, or to the code points between those that it shifts. -/
def isApart (row other : Nat × Nat × Nat × Int) : Bool :=
  (target row row.2.1).blt other.1 || other.2.1.blt (target row row.1)
    || other.2.2.1 == 2 && (row.2.2.1 == 2 || row.1 == row.2.1)
      && (target row row.1 + other.1) % 2 == 1

/-- The row that the dotted capital would have, were its lower case one character. -/
def dottedRow : Nat × Nat × Nat × Int := (0x130, 0x130, 1, 0)

theorem leadsToChars_of_mem : ∀ row ∈ lowerShifts, LeadsToChars row := by decide +kernel

theorem isApart_of_mem : ∀ row ∈ lowerShifts, ∀ other ∈ dottedRow :: lowerShifts,
    isApart row other = true := by
  have hall : (lowerShifts.all fun row => (dottedRow :: lowerShifts).all (isApart row)) = true := by
    decide +kernel
  intro row hrow
  exact List.all_eq_true.mp (List.all_eq_true.mp hall row hrow)

theorem not_isShiftedBy_target {row other : Nat × Nat × Nat × Int} (h : isApart row other = true)
    (hrow : LeadsToChars row) (hn : IsShiftedBy row n) : ¬ IsShiftedBy other (target row n) := by
  obtain ⟨hnonneg, -⟩ := hrow
  obtain ⟨hfirst, hlast, hstep⟩ := hn
  rintro ⟨hfirst', hlast', hstep'⟩
  simp only [isApart, Bool.or_eq_true, Bool.and_eq_true, Nat.blt_eq, beq_iff_eq, and_assoc] at h
  unfold target at *
  obtain (h | h) | ⟨htwo, hone, hodd⟩ := h
  · omega
  · omega
  · rw [htwo] at hstep'
    obtain hone | hone := hone
    · rw [hone] at hstep
      omega
    · omega

theorem toNat_ofNat_target {row : Nat × Nat × Nat × Int} (hrow : LeadsToChars row)
    (hn : IsShiftedBy row n) : (Char.ofNat (target row n)).toNat = target row n := by
  obtain ⟨hnonneg, hrange⟩ := hrow
  obtain ⟨hfirst, hlast, -⟩ := hn
  have hvalid : (target row n).isValidChar := by
    unfold Nat.isValidChar target
    omega
  rw [Char.ofNat, dif_pos hvalid]
  rfl

/-! ## Lowered characters -/

/-- Lower case leaves a character as it is, wherever it stands. -/
structure IsLowered (c : Char) : Prop where
  lowerChar_eq : lowerChar c = c
  lowersAlone : c ≠ 'Σ' ∧ c ≠ 'İ'

theorem isLowered_lowerChar (h : c ≠ 'Σ' ∧ c ≠ 'İ') : IsLowered (lowerChar c) := by
  obtain heq | ⟨row, hrow, hshifted, heq⟩ := lowerChar_cases c
  · exact ⟨by rw [heq, heq], by rwa [heq]⟩
  · have hchars := leadsToChars_of_mem row hrow
    have hrows : ∀ other ∈ dottedRow :: lowerShifts, ¬ IsShiftedBy other (lowerChar c).toNat := by
      intro other hother
      rw [heq, toNat_ofNat_target hchars hshifted]
      exact not_isShiftedBy_target (isApart_of_mem row hrow other hother) hchars hshifted
    refine ⟨?_, ?_, ?_⟩
    · apply lowerChar_of_not_isShiftedBy
      intro other hother
      exact hrows other (List.mem_cons_of_mem _ hother)
    · intro hsigma
      apply hrows (0x3a3, 0x3ab, 1, 32) (by decide +kernel)
      rw [hsigma]
      exact ⟨by decide, by decide, by decide⟩
    · intro hdotted
      apply hrows dottedRow List.mem_cons_self
      rw [hdotted]
      exact ⟨by decide, by decide, by decide⟩

theorem isLowered_of_mem_lowerIn {before after : Bool} {d : Char}
    (h : c ∈ lowerIn before after d) : IsLowered c := by
  have hspecial : IsLowered 'ς' ∧ IsLowered 'σ' ∧ IsLowered 'i' ∧ IsLowered '\u0307' :=
    ⟨⟨by decide +kernel, by decide⟩, ⟨by decide +kernel, by decide⟩,
      ⟨by decide +kernel, by decide⟩, ⟨by decide +kernel, by decide⟩⟩
  obtain ⟨hfinal, hsmall, hi, hdot⟩ := hspecial
  unfold lowerIn at h
  split at h
  · rw [List.mem_singleton.mp h]
    split
    · exact hfinal
    · exact hsmall
  · next hsigma =>
    split at h
    · rw [List.mem_cons, List.mem_singleton] at h
      obtain rfl | rfl := h
      · exact hi
      · exact hdot
    · next hdotted =>
      rw [List.mem_singleton.mp h]
      exact isLowered_lowerChar ⟨hsigma, hdotted⟩

theorem isLowered_of_mem_lowerFrom {before : List Char} (h : c ∈ lowerFrom before s) :
    IsLowered c := by
  induction s generalizing before with
  | nil => cases h
  | cons d s ih =>
    rw [lowerFrom_cons] at h
    obtain h | h := List.mem_append.mp h
    · exact isLowered_of_mem_lowerIn h
    · exact ih h

theorem lower_of_isLowered (h : ∀ c ∈ s, IsLowered c) : lower s = s := by
  rw [lower_eq_map fun c hc => (h c hc).lowersAlone,
    List.map_congr_left fun c hc => (h c hc).lowerChar_eq, List.map_id']

end Retrace.Text
