import Retrace.Proofs.Naming.Camel
import Retrace.Proofs.Text.Lower
import Retrace.Proofs.Text.Strip

/-!
# Words are bounded by positions of the name

Where underscores go is told by the name alone, by two characters and the one behind
them. Lower case reads what stands around a sigma, but never as far as an underscore:
those that are put in have a letter or a digit on both sides. So without underscores a
keyword is its name in lower case, and a keyword is its own keyword.
-/

namespace Retrace.Naming

/-- A word ends at a position and another one begins behind it. -/
def isBoundary (name : List Char) (i : Nat) : Bool :=
  name[i]?.any isSmallOrDigit && name[i + 1]?.any isCapital
    || name[i]?.any isCapital && name[i + 1]?.any isCapital && name[i + 2]?.any isSmall

/-- An underscore behind each position that is marked. -/
def markBehind (isMarked : Nat → Bool) (s : List Char) : List Char :=
  s.zipIdx.flatMap fun (c, i) => if isMarked i then [c, '_'] else [c]

section

variable {name s rest before before' : List Char} {a b c : Char}

/-! ## Positions -/

theorem markBehind_cons (isMarked : Nat → Bool) (c : Char) (s : List Char) :
    markBehind isMarked (c :: s)
      = (if isMarked 0 then [c, '_'] else [c]) ++ markBehind (fun i => isMarked (i + 1)) s := by
  rw [markBehind, List.zipIdx_cons, List.flatMap_cons, List.zipIdx_succ, List.flatMap_map]
  rfl

theorem isBoundary_zero (a b : Char) (rest : List Char) :
    isBoundary (a :: b :: rest) 0 = beginsWord a b rest := by
  cases rest <;> simp [isBoundary, beginsWord, endsRun]

theorem markWords_eq_markBehind (name : List Char) :
    markWords name = markBehind (isBoundary name) name := by
  fun_induction markWords name with
  | case1 a b rest hbegins ih =>
    rw [markBehind_cons, isBoundary_zero, if_pos hbegins, ih]
    rfl
  | case2 a b rest hbegins ih =>
    rw [markBehind_cons, isBoundary_zero, if_neg hbegins, ih]
    rfl
  | case3 s hs =>
    obtain _ | ⟨a, _ | ⟨b, rest⟩⟩ := s
    · rfl
    · simp [markBehind, isBoundary]
    · exact absurd rfl (hs a b rest)

/-! ## What stands around a sigma -/

theorem nextIsCased_cons_of_not (hc : Text.isCaseIgnorable c = false) (s : List Char) :
    Text.nextIsCased (c :: s) = Text.isCased c := by
  rw [Text.nextIsCased, List.dropWhile_cons_of_neg (by simp [hc])]
  rfl

theorem nextIsCased_cons_congr (h : Text.nextIsCased before' = Text.nextIsCased before)
    (c : Char) : Text.nextIsCased (c :: before') = Text.nextIsCased (c :: before) := by
  cases hc : Text.isCaseIgnorable c with
  | false => rw [nextIsCased_cons_of_not hc, nextIsCased_cons_of_not hc]
  | true =>
    rw [Text.nextIsCased, Text.nextIsCased, List.dropWhile_cons_of_pos hc,
      List.dropWhile_cons_of_pos hc]
    exact h

/-- A plain letter or digit: it is no sigma, and nothing is read across it. -/
structure IsPlain (c : Char) : Prop where
  isCaseIgnorable_eq : Text.isCaseIgnorable c = false
  lowersAlone : c ≠ 'Σ' ∧ c ≠ 'İ'

theorem isPlain_of_range (h : Text.inRanges [(0x30, 0x39), (0x41, 0x5a), (0x61, 0x7a)] c = true) :
    IsPlain c := by
  refine ⟨Text.inRanges_eq_false_of_apart (by decide +kernel) h, lowersAlone_of_lt ?_⟩
  obtain ⟨range, hrange, -, hlast⟩ := Text.inRanges_eq_true_iff.mp h
  have hranges : ∀ r ∈ [(0x30, 0x39), (0x41, 0x5a), (0x61, 0x7a)], r.2 < 0x80 := by decide
  exact Nat.lt_of_le_of_lt hlast (hranges range hrange)

theorem isPlain_of_isCapital (h : isCapital c = true) : IsPlain c := by
  rw [isCapital_iff] at h
  exact isPlain_of_range (Text.inRanges_eq_true_iff.mpr ⟨(0x41, 0x5a), by simp, h⟩)

theorem isPlain_of_isSmallOrDigit (h : isSmallOrDigit c = true) : IsPlain c := by
  rw [isSmallOrDigit_iff] at h
  apply isPlain_of_range
  rw [Text.inRanges_eq_true_iff]
  obtain h | h := h
  · exact ⟨(0x61, 0x7a), by simp, h⟩
  · exact ⟨(0x30, 0x39), by simp, h⟩

theorem isPlain_of_beginsWord (h : beginsWord a b rest = true) :
    IsPlain a ∧ isCapital b = true := by
  rw [beginsWord, endsRun, Bool.or_eq_true, Bool.and_eq_true, Bool.and_eq_true,
    Bool.and_eq_true] at h
  obtain ⟨ha, hb⟩ | ⟨⟨ha, hb⟩, -⟩ := h
  · exact ⟨isPlain_of_isSmallOrDigit ha, hb⟩
  · exact ⟨isPlain_of_isCapital ha, hb⟩

/-- Reading on from the front, one comes to the same character, marked or not. -/
theorem nextIsCased_markWords (s : List Char) :
    Text.nextIsCased (markWords s) = Text.nextIsCased s := by
  fun_induction markWords s with
  | case1 a b rest hbegins ih =>
    have ha := (isPlain_of_beginsWord hbegins).1.isCaseIgnorable_eq
    rw [nextIsCased_cons_of_not ha, nextIsCased_cons_of_not ha]
  | case2 a b rest _ ih => exact nextIsCased_cons_congr ih a
  | case3 => rfl

/-! ## Lower case of marked names -/

/-- What is before a character makes no difference to what is made of it and to what is behind it:
what is read backwards ends alike, or it ends at the character, which is a capital. -/
theorem lowerIn_congr
    (h : Text.nextIsCased before' = Text.nextIsCased before ∨ isCapital c = true) (after : Bool) :
    Text.lowerIn (Text.nextIsCased before') after c = Text.lowerIn (Text.nextIsCased before) after c
      ∧ Text.nextIsCased (c :: before') = Text.nextIsCased (c :: before) := by
  obtain h | hcapital := h
  · rw [h]
    exact ⟨rfl, nextIsCased_cons_congr h c⟩
  · have hc := isPlain_of_isCapital hcapital
    rw [Text.lowerIn_of_ne hc.lowersAlone, Text.lowerIn_of_ne hc.lowersAlone,
      nextIsCased_cons_of_not hc.isCaseIgnorable_eq, nextIsCased_cons_of_not hc.isCaseIgnorable_eq]
    exact ⟨rfl, rfl⟩

theorem filter_lowerFrom_markWords
    (h : Text.nextIsCased before' = Text.nextIsCased before ∨ s.head?.any isCapital = true) :
    (Text.lowerFrom before' (markWords s)).filter (· ≠ '_')
      = (Text.lowerFrom before s).filter (· ≠ '_') := by
  fun_induction markWords s generalizing before before' with
  | case1 a b rest hbegins ih =>
    obtain ⟨ha, hb⟩ := isPlain_of_beginsWord hbegins
    have hmark : Text.lowerChar '_' = '_' := by decide +kernel
    rw [Text.lowerFrom_cons, Text.lowerFrom_cons, Text.lowerFrom_cons,
      Text.lowerIn_of_ne ha.lowersAlone, Text.lowerIn_of_ne ha.lowersAlone,
      Text.lowerIn_of_ne (by decide), hmark, List.filter_append, List.filter_append,
      List.filter_append, ih (.inr hb)]
    rfl
  | case2 a b rest _ ih =>
    obtain ⟨hfirst, hnext⟩ := lowerIn_congr h (Text.nextIsCased (b :: rest))
    rw [Text.lowerFrom_cons, Text.lowerFrom_cons, nextIsCased_markWords, hfirst,
      List.filter_append, List.filter_append, ih (.inl hnext)]
  | case3 s hs =>
    obtain _ | ⟨a, _ | ⟨b, rest⟩⟩ := s
    · rfl
    · rw [Text.lowerFrom_cons, Text.lowerFrom_cons, (lowerIn_congr h _).1]
      rfl
    · exact absurd rfl (hs a b rest)

theorem markWords_of_not_isCapital (h : ∀ c ∈ s, isCapital c = false) : markWords s = s := by
  fun_induction markWords s with
  | case1 a b rest hbegins ih =>
    have hb := (isPlain_of_beginsWord hbegins).2
    rw [h b (by simp)] at hb
    cases hb
  | case2 a b rest _ ih => rw [ih (List.forall_mem_cons.mp h).2]
  | case3 => rfl

theorem not_isCapital_of_isLowered (h : Text.IsLowered c) : isCapital c = false := by
  rw [← Bool.not_eq_true]
  intro hcapital
  have hsmall := (toUpper_lowerChar hcapital).1
  rw [h.lowerChar_eq] at hsmall
  rw [not_isCapital_of_isSmallOrDigit (isSmallOrDigit_of_isSmall hsmall)] at hcapital
  cases hcapital

theorem snakeCase_of_isLowered (h : ∀ c ∈ s, Text.IsLowered c) : snakeCase s = s := by
  rw [snakeCase_eq, markWords_of_not_isCapital fun c hc => not_isCapital_of_isLowered (h c hc),
    Text.lower_of_isLowered h]

end

/-- A keyword is the name with an underscore behind each boundary, lowered. Without underscores it
is the lowered name without underscores, and it is a keyword of its own. -/
theorem snakeCase_eq_lower_markBehind (name : List Char) :
    snakeCase name = Text.lower (markBehind (isBoundary name) name)
      ∧ (snakeCase name).filter (· ≠ '_') = (Text.lower name).filter (· ≠ '_')
      ∧ snakeCase (snakeCase name) = snakeCase name := by
  refine ⟨?_, ?_, ?_⟩
  · rw [snakeCase_eq, markWords_eq_markBehind]
  · rw [snakeCase_eq]
    exact filter_lowerFrom_markWords (.inl rfl)
  · apply snakeCase_of_isLowered
    intro c hc
    exact Text.isLowered_of_mem_lowerFrom hc

-- the sigma ends a word for lower case, though an underscore and a capital follow behind the digit
example : snakeCase "HTTPServerΑΣ1Σ2B".toList = "http_serverας1σ2_b".toList := by decide +kernel

end Retrace.Naming
