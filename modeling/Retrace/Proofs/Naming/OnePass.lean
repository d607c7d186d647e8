import Retrace.Naming

/-!
# Words are marked in one pass

Names are marked in two passes, each of which goes on behind what it has
replaced, and the second one reads what the first one has written. Together they
do what one pass does that looks at each pair of neighbours and at the character
behind it: no mark hides a word from the second pass or shows it one.
-/

namespace Retrace.Naming

/-- Whether a run of capitals ends with `a`: another one comes and then a small letter. -/
def endsRun (a b : Char) (rest : List Char) : Bool :=
  isCapital a && isCapital b && (rest.head?.map isSmall).getD false

/-- Whether a word begins at `b`, which stands between `a` and `rest`. -/
def beginsWord (a b : Char) (rest : List Char) : Bool :=
  isSmallOrDigit a && isCapital b || endsRun a b rest

/-- An underscore before each character that begins a word behind another one. -/
def markWords : List Char → List Char
  | a :: b :: rest =>
    if beginsWord a b rest then a :: '_' :: markWords (b :: rest) else a :: markWords (b :: rest)
  | s => s

/-! ## Kinds of characters -/

section

variable {c : Char}

theorem isSmall_iff : isSmall c = true ↔ 0x61 ≤ c.toNat ∧ c.toNat ≤ 0x7a := by
  rw [isSmall, Bool.and_eq_true, decide_eq_true_iff, decide_eq_true_iff]
  exact Iff.rfl

theorem isCapital_iff : isCapital c = true ↔ 0x41 ≤ c.toNat ∧ c.toNat ≤ 0x5a := by
  rw [isCapital, Bool.and_eq_true, decide_eq_true_iff, decide_eq_true_iff]
  exact Iff.rfl

theorem isSmallOrDigit_iff : isSmallOrDigit c = true ↔
    (0x61 ≤ c.toNat ∧ c.toNat ≤ 0x7a) ∨ (0x30 ≤ c.toNat ∧ c.toNat ≤ 0x39) := by
  rw [isSmallOrDigit, Bool.or_eq_true, isSmall_iff, Bool.and_eq_true, decide_eq_true_iff,
    decide_eq_true_iff]
  exact Iff.rfl

theorem isSmallOrDigit_of_isSmall (h : isSmall c = true) : isSmallOrDigit c = true := by
  rw [isSmallOrDigit, h, Bool.true_or]

theorem not_isCapital_of_isSmallOrDigit (h : isSmallOrDigit c = true) : isCapital c = false := by
  rw [isSmallOrDigit_iff] at h
  rw [← Bool.not_eq_true, isCapital_iff]
  omega

theorem not_isSmallOrDigit_of_isCapital (h : isCapital c = true) : isSmallOrDigit c = false := by
  rw [← Bool.not_eq_true]
  intro hsmall
  rw [not_isCapital_of_isSmallOrDigit hsmall] at h
  cases h

end

/-! ## The first pass -/

section

variable {a b : Char} {s rest : List Char}

theorem markWordStarts_of_not (h : isSmallOrDigit a = false) :
    markWordStarts (a :: s) = a :: markWordStarts s := by
  cases s with
  | nil => rfl
  | cons b s => simp [markWordStarts, h]

/-- No pair of neighbours is left out: a capital that has been looked at begins no pair. -/
theorem markWordStarts_cons_cons (a b : Char) (rest : List Char) :
    markWordStarts (a :: b :: rest) =
      if isSmallOrDigit a && isCapital b then a :: '_' :: markWordStarts (b :: rest)
      else a :: markWordStarts (b :: rest) := by
  rw [markWordStarts]
  split
  · next h =>
    rw [Bool.and_eq_true] at h
    rw [markWordStarts_of_not (not_isSmallOrDigit_of_isCapital h.2)]
  · rfl

theorem head?_markWordStarts (s : List Char) : (markWordStarts s).head? = s.head? := by
  match s with
  | [] => rfl
  | [_] => rfl
  | a :: b :: rest =>
    rw [markWordStarts_cons_cons]
    split <;> rfl

/-! ## The second pass -/

theorem endsRun_cons (a b c : Char) (rest : List Char) :
    endsRun a b (c :: rest) = (isCapital a && isCapital b && isSmall c) := rfl

theorem markRunEnds_of_not (h : isCapital a = false) :
    markRunEnds (a :: s) = a :: markRunEnds s := by
  match s with
  | [] => rfl
  | [_] => rfl
  | b :: c :: rest => simp [markRunEnds, h]

/-- No pair of neighbours is left out: the small letter behind a pair of capitals keeps the next
two pairs from being one. -/
theorem markRunEnds_cons_cons (a b : Char) (rest : List Char) :
    markRunEnds (a :: b :: rest) =
      if endsRun a b rest then a :: '_' :: markRunEnds (b :: rest)
      else a :: markRunEnds (b :: rest) := by
  cases rest with
  | nil => simp [markRunEnds, endsRun]
  | cons c rest =>
    rw [markRunEnds, endsRun_cons]
    by_cases h : (isCapital a && isCapital b && isSmall c) = true
    · have hc := not_isCapital_of_isSmallOrDigit
        (isSmallOrDigit_of_isSmall (Bool.and_eq_true_iff.mp h).2)
      have hnext : markRunEnds (b :: c :: rest) = b :: markRunEnds (c :: rest) := by
        cases rest with
        | nil => rfl
        | cons d rest => simp [markRunEnds, hc]
      rw [if_pos h, if_pos h, hnext, markRunEnds_of_not hc]
    · rw [if_neg h, if_neg h]

end

/-! ## Both passes -/

/-- A pair in which no word begins behind a small letter or digit is left to the second pass,
which finds behind it what has been there before. -/
theorem markRunEnds_cons_markWordStarts {a b : Char} {rest : List Char}
    (h : (isSmallOrDigit a && isCapital b) = false) :
    markRunEnds (a :: markWordStarts (b :: rest)) =
      if beginsWord a b rest then a :: '_' :: markRunEnds (markWordStarts (b :: rest))
      else a :: markRunEnds (markWordStarts (b :: rest)) := by
  rw [beginsWord, h, Bool.false_or]
  cases hb : isCapital b with
  | false =>
    obtain ⟨behind, hbehind⟩ := List.head?_eq_some_iff.mp (head?_markWordStarts (b :: rest))
    rw [hbehind, markRunEnds_cons_cons]
    simp [endsRun, hb]
  | true =>
    rw [markWordStarts_of_not (not_isSmallOrDigit_of_isCapital hb), markRunEnds_cons_cons, endsRun,
      head?_markWordStarts, endsRun]

theorem markRunEnds_markWordStarts (s : List Char) :
    markRunEnds (markWordStarts s) = markWords s := by
  fun_induction markWords s with
  | case1 a b rest hbegins ih =>
    rw [markWordStarts_cons_cons]
    cases hfirst : isSmallOrDigit a && isCapital b with
    | true =>
      have ha := not_isCapital_of_isSmallOrDigit (Bool.and_eq_true_iff.mp hfirst).1
      rw [if_pos rfl, markRunEnds_of_not ha, markRunEnds_of_not (by decide), ih]
    | false => rw [if_neg (by decide), markRunEnds_cons_markWordStarts hfirst, if_pos hbegins, ih]
  | case2 a b rest hbegins ih =>
    have hfirst : (isSmallOrDigit a && isCapital b) = false := by
      rw [beginsWord, Bool.or_eq_true, not_or, Bool.not_eq_true] at hbegins
      exact hbegins.1
    rw [markWordStarts_cons_cons, hfirst, if_neg (by decide),
      markRunEnds_cons_markWordStarts hfirst, if_neg hbegins, ih]
  | case3 s hs =>
    match s with
    | [] => rfl
    | [_] => rfl
    | a :: b :: rest => exact absurd rfl (hs a b rest)

theorem snakeCase_eq (name : List Char) : snakeCase name = Text.lower (markWords name) := by
  rw [snakeCase, markRunEnds_markWordStarts]

end Retrace.Naming
