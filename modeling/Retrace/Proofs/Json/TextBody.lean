import Mathlib.Data.List.TakeWhile
import Retrace.Proofs.Json.Quoted

/-!
# Bodies of texts

Between quotation marks JSON accepts single characters, but no mark, no backslash
and no control character, the escapes of one letter, and code points of four
digits. A reader of a text stops at the first mark that is in no escape, and it
reads a body to its end just if the body is made of these pieces. A pair of
surrogates is read at once; as a body it is two code points.
-/

namespace Retrace.Json

inductive IsTextBody : List Char → Prop
  | nil : IsTextBody []
  | plain {c : Char} {s : List Char} (hmark : c ≠ '\x22') (hescape : c ≠ '\\')
    (hcontrol : 0x20 ≤ c.toNat) (h : IsTextBody s) : IsTextBody (c :: s)
  | simple {e x : Char} {s : List Char} (he : simpleEscape? e = some x) (h : IsTextBody s) :
    IsTextBody ('\\' :: e :: s)
  | codePoint {digits s : List Char} (hlength : digits.length = 4)
    (hdigits : ∀ c ∈ digits, (hexValue? c).isSome = true) (h : IsTextBody s) :
    IsTextBody ('\\' :: 'u' :: (digits ++ s))

/-! ## Four digits -/

theorem isSome_foldlM_hexValue? (s : List Char) (n : Nat) :
    (s.foldlM (fun n c => (hexValue? c).map (n * 16 + ·)) n).isSome = true
      ↔ ∀ c ∈ s, (hexValue? c).isSome = true := by
  induction s generalizing n with
  | nil => simp
  | cons c s ih =>
    rw [List.foldlM_cons, List.forall_mem_cons]
    cases hexValue? c with
    | none => simp
    | some value => simpa using ih _

theorem isSome_hexQuad?_iff {s : List Char} :
    (hexQuad? s).isSome = true
      ↔ ∃ digits rest, s = digits ++ rest ∧ digits.length = 4
        ∧ ∀ c ∈ digits, (hexValue? c).isSome = true := by
  have hcut : (s.take 4).length < 4 ↔ s.length < 4 := by
    rw [List.length_take]
    omega
  constructor
  · intro h
    rw [hexQuad?] at h
    split at h
    · cases h
    · next hlength =>
      refine ⟨s.take 4, s.drop 4, (List.take_append_drop 4 s).symm, ?_, ?_⟩
      · rw [List.length_take]
        omega
      · exact (isSome_foldlM_hexValue? _ 0).mp h
  · rintro ⟨digits, rest, rfl, hlength, hdigits⟩
    rw [hexQuad?, List.take_left' hlength, if_neg (by omega)]
    exact (isSome_foldlM_hexValue? digits 0).mpr hdigits

/-! ## Reading -/

section

variable {opening rest : List Char} {fuel : Nat}

/-- A code point is read if what follows it can be read, and, where a second one follows that may
make a pair with it, if what follows both can be read. -/
theorem exists_readText_codePoint {digits after : List Char} (hlength : digits.length = 4)
    (hdigits : ∀ c ∈ digits, (hexValue? c).isSome = true) (hafter : after ≠ [])
    (hsingle : ∃ text, readText opening fuel after = .ok (text, rest))
    (hpair : after.take 2 = ['\\', 'u'] → (hexQuad? (after.drop 2)).isSome = true
      ∧ ∃ text, readText opening fuel (after.drop 6) = .ok (text, rest)) :
    ∃ text, readText opening (fuel + 1) ('\\' :: 'u' :: (digits ++ after)) = .ok (text, rest) := by
  have hdrop : (digits ++ after).drop 4 = after := List.drop_left' hlength
  have hlonger : isLonger 4 (digits ++ after) = true := by
    simpa [isLonger, hdrop] using hafter
  obtain ⟨high, hhigh⟩ :=
    Option.isSome_iff_exists.mp (isSome_hexQuad?_iff.mpr ⟨digits, after, rfl, hlength, hdigits⟩)
  obtain ⟨text, htext⟩ := hsingle
  rw [readText, if_neg (by decide), if_pos rfl]
  simp only [hlonger, hhigh, hdrop, Bool.not_true, Bool.false_eq_true, if_false]
  split
  case isFalse => exact ⟨_, by rw [htext]; rfl⟩
  case isTrue hcondition =>
    simp only [Bool.and_eq_true, decide_eq_true_eq] at hcondition
    obtain ⟨hquad, pairText, hpairText⟩ := hpair hcondition.2
    obtain ⟨low, hlow⟩ := Option.isSome_iff_exists.mp hquad
    simp only [hlow]
    split
    · exact ⟨_, by rw [hpairText]; rfl⟩
    · exact ⟨_, by rw [htext]; rfl⟩

/-- A body can be read to its end, whatever follows the mark behind it. -/
theorem exists_readText {body : List Char} (h : IsTextBody body) (hfuel : body.length < fuel) :
    ∃ text, readText opening fuel (body ++ '\x22' :: rest) = .ok (text, rest) := by
  -- on the fuel, since a pair of code points is read in one step
  induction fuel generalizing body with
  | zero => exact absurd hfuel (Nat.not_lt_zero _)
  | succ fuel ih =>
    cases h with
    | nil => exact ⟨[], by simp [readText]⟩
    | plain hmark hescape hcontrol h =>
      obtain ⟨text, htext⟩ := ih h (by simpa using hfuel)
      rw [List.cons_append, readText_plain hmark hescape (Nat.not_lt.mpr hcontrol), htext]
      exact ⟨_, rfl⟩
    | @simple e x s he h =>
      have hu : e ≠ 'u' := by
        rintro rfl
        cases he
      simp only [List.length_cons] at hfuel
      obtain ⟨text, htext⟩ := ih h (by omega)
      rw [List.cons_append, List.cons_append, readText_simple hu he, htext]
      exact ⟨_, rfl⟩
    | @codePoint digits s hlength hdigits h =>
      simp only [List.length_cons, List.length_append] at hfuel
      rw [List.cons_append, List.cons_append, List.append_assoc]
      apply exists_readText_codePoint hlength hdigits (by simp) (ih h (by omega))
      intro hpair
      cases h with
      | nil => cases hpair
      | plain _ hescape => exact absurd (List.cons_eq_cons.mp hpair).1 hescape
      | simple he =>
        cases hpair
        cases he
      | @codePoint digits' s' hlength' hdigits' h =>
        simp only [List.length_cons, List.length_append] at hfuel
        constructor
        · exact isSome_hexQuad?_iff.mpr ⟨digits', s' ++ '\x22' :: rest, by simp, hlength', hdigits'⟩
        · have hbehind : ('\\' :: 'u' :: (digits' ++ s') ++ '\x22' :: rest).drop 6
              = s' ++ '\x22' :: rest := by
            simp only [List.cons_append, List.drop_succ_cons, List.append_assoc]
            exact List.drop_left' hlength'
          rw [hbehind]
          exact ih h (by omega)

/-- A code point in front of a body makes a body. -/
theorem exists_body_of_hexQuad? {s : List Char} {n : Nat} (hquad : hexQuad? s = some n)
    (h : ∃ body, s.drop 4 = body ++ '\x22' :: rest ∧ IsTextBody body) :
    ∃ body, '\\' :: 'u' :: s = body ++ '\x22' :: rest ∧ IsTextBody body := by
  obtain ⟨digits, after, rfl, hlength, hdigits⟩ :=
    isSome_hexQuad?_iff.mp (Option.isSome_of_eq_some hquad)
  obtain ⟨body, hbody, h⟩ := h
  rw [List.drop_left' hlength] at hbody
  exact ⟨_, by simp [hbody], .codePoint hlength hdigits h⟩

/-- What is read as a text is a body with its mark behind it. -/
theorem exists_body_of_readText {s : List Char} {text : List Nat}
    (h : readText opening fuel s = .ok (text, rest)) :
    ∃ body, s = body ++ '\x22' :: rest ∧ IsTextBody body := by
  fun_induction readText opening fuel s generalizing text with
  | case1 => cases h
  | case2 => cases h
  | case3 =>
    cases h
    exact ⟨[], rfl, .nil⟩
  | case4 => cases h
  | case5 => cases h
  | case6 => cases h
  | case7 => cases h
  | case8 fuel s _ high hhigh after hpair low hlow =>
    rename_i ih
    -- a pair: its second half stands in front of what is read next
    obtain ⟨⟨tail, rest'⟩, hread, h⟩ := Result.bind_eq_ok.mp h
    cases h
    simp only [Bool.and_eq_true, decide_eq_true_eq] at hpair
    apply exists_body_of_hexQuad? hhigh
    have hafter : s.drop 4 = '\\' :: 'u' :: (s.drop 4).drop 2 := by
      conv_lhs => rw [← List.take_append_drop 2 (s.drop 4), hpair.2]
      rfl
    rw [hafter]
    apply exists_body_of_hexQuad? hlow
    rw [List.drop_drop]
    exact ih hread
  | case9 fuel s _ high hhigh =>
    rename_i ih
    obtain ⟨⟨tail, rest'⟩, hread, h⟩ := Result.bind_eq_ok.mp h
    cases h
    exact exists_body_of_hexQuad? hhigh (ih hread)
  | case10 fuel s _ high hhigh =>
    rename_i ih
    obtain ⟨⟨tail, rest'⟩, hread, h⟩ := Result.bind_eq_ok.mp h
    cases h
    exact exists_body_of_hexQuad? hhigh (ih hread)
  | case11 => cases h
  | case12 fuel e s _ x hx _ ih =>
    obtain ⟨⟨tail, rest'⟩, hread, h⟩ := Result.bind_eq_ok.mp h
    cases h
    obtain ⟨body, rfl, hbody⟩ := ih hread
    exact ⟨_, rfl, .simple hx hbody⟩
  | case13 => cases h
  | case14 fuel c s hmark hescape hcontrol ih =>
    obtain ⟨⟨tail, rest'⟩, hread, h⟩ := Result.bind_eq_ok.mp h
    cases h
    obtain ⟨body, rfl, hbody⟩ := ih hread
    exact ⟨_, rfl, .plain hmark hescape (Nat.not_lt.mp hcontrol) hbody⟩

end

/-! ## The whole text -/

/-- A body between marks is a text of JSON just if it is made of pieces that JSON accepts. -/
theorem exists_readQuoted_iff (body : List Char) :
    (∃ d, readQuoted body = .ok d) ↔ IsTextBody body := by
  simp only [readQuoted, read, Result.mapError_eq_ok, List.cons_append, readDocument_mark]
  constructor
  · rintro ⟨_, text, rest, hread, hrest, -⟩
    obtain ⟨front, hfront, hbody⟩ := exists_body_of_readText hread
    -- a mark that ends the text before its last one would leave that one behind
    obtain rfl | ⟨init, last, rfl⟩ := List.eq_nil_or_concat' rest
    · obtain ⟨rfl, -⟩ := List.append_inj' hfront rfl
      exact hbody
    · have hlast : '\x22' = last := by
        rw [← List.cons_append, ← List.append_assoc] at hfront
        exact (List.cons_eq_cons.mp (List.append_inj_right' hfront rfl)).1
      subst hlast
      have hspace : isSpace '\x22' = true :=
        List.dropWhile_eq_nil_iff.mp hrest _ (by simp)
      exact absurd hspace (by decide)
  · intro h
    have hfuel : body.length < 2 * ((body ++ ['\x22']).length + 1) + 1 := by
      rw [List.length_append]
      omega
    obtain ⟨text, hread⟩ := exists_readText h hfuel
    exact ⟨_, text, [], hread, rfl, rfl⟩

end Retrace.Json
