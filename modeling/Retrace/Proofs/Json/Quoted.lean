import Retrace.Proofs.Literal.Text
import Retrace.Proofs.Result
import Retrace.Proofs.Text.Surrogate

/-!
# Text literals as JSON

Between quotation marks the escapes of a literal are escapes of JSON. The body
of a literal therefore decodes to the text that the literal was written for.
-/

namespace Retrace.Json

open Literal Text

/-- A text read behind one more character. -/
def behind (c : Char) (p : List Nat × List Char) : List Nat × List Char := (c.toNat :: p.1, p.2)

/-! ## One character -/

theorem readText_plain {c : Char} (hquotation : c ≠ '\x22') (hc : c ≠ '\\')
    (hcontrol : ¬ c.toNat < 0x20) (opening : List Char) (fuel : Nat) (rest : List Char) :
    readText opening (fuel + 1) (c :: rest) = behind c <$> readText opening fuel rest := by
  rw [readText.eq_def]
  dsimp only
  rw [if_neg hquotation, if_neg hc, if_neg hcontrol]
  cases readText opening fuel rest <;> rfl

theorem readText_simple {e x : Char} (he : e ≠ 'u') (h : simpleEscape? e = some x)
    (opening : List Char) (fuel : Nat) (rest : List Char) :
    readText opening (fuel + 1) ('\\' :: e :: rest) = behind x <$> readText opening fuel rest := by
  rw [readText, if_neg (by decide), if_pos rfl, h]
  · cases readText opening fuel rest <;> rfl
  · exact he

/-- A control character is no half of a surrogate pair, so its code point stands alone. -/
theorem readText_control {c : Char} (hc : c.toNat < 0x20) (opening : List Char) (fuel : Nat)
    {rest : List Char} (hrest : rest ≠ []) :
    readText opening (fuel + 1) ('\\' :: 'u' :: Datum.hexDigits 4 c.toNat ++ rest)
      = behind c <$> readText opening fuel rest := by
  have hall : ∀ n < 0x20, (Datum.hexDigits 4 n).length = 4
      ∧ hexQuad? (Datum.hexDigits 4 n) = some n := by decide
  obtain ⟨hlength, hquad⟩ := hall c.toNat hc
  have hhigh : isHighSurrogate c.toNat = false := by
    simp only [isHighSurrogate, Bool.and_eq_false_iff, decide_eq_false_iff_not]
    omega
  generalize Datum.hexDigits 4 c.toNat = digits at hlength hquad ⊢
  have hdrop : (digits ++ rest).drop 4 = rest := List.drop_left' hlength
  have htake : (digits ++ rest).take 4 = digits := List.take_left' hlength
  have hlonger : isLonger 4 (digits ++ rest) = true := by
    simpa [isLonger, hdrop] using hrest
  have hread : hexQuad? (digits ++ rest) = some c.toNat := by
    rw [← hquad, hexQuad?, hexQuad?, htake, List.take_of_length_le (Nat.le_of_eq hlength)]
  rw [List.cons_append, List.cons_append, readText, if_neg (by decide), if_pos rfl]
  simp only [hlonger, hread, hdrop, hhigh, Bool.not_true, Bool.false_and, Bool.false_eq_true,
    if_false]
  cases readText opening fuel rest <;> rfl

theorem simpleEscape?_controlLetter {c letter : Char} (h : controlLetter? c = some letter) :
    letter ≠ 'u' ∧ simpleEscape? letter = some c := by
  simp only [controlLetter?] at h
  split_ifs at h with hc hc hc hc hc
  all_goals cases h; subst hc; decide

/-- An escaped character is read as the character that it was. -/
theorem readText_escapeChar (c : Char) (opening : List Char) (fuel : Nat) {rest : List Char}
    (hrest : rest ≠ []) :
    readText opening (fuel + 1) (escapeChar .quotation c ++ rest)
      = behind c <$> readText opening fuel rest := by
  have hescape := isEscape_escapeChar .quotation c
  generalize escapeChar .quotation c = s at hescape ⊢
  cases hescape with
  | self h =>
    obtain rfl | rfl := h
    · exact readText_simple (by decide) (by decide) opening fuel rest
    · exact readText_simple (by decide) (by decide) opening fuel rest
  | letter h =>
    obtain ⟨hu, hread⟩ := simpleEscape?_controlLetter h
    exact readText_simple hu hread opening fuel rest
  | codePoint h => exact readText_control h opening fuel hrest
  | plain hescape hmark hcontrol =>
    exact readText_plain hmark hescape (Nat.not_lt.mpr hcontrol) opening fuel rest

/-! ## The whole text -/

theorem readText_escape (opening text rest : List Char) {fuel : Nat} (h : text.length < fuel) :
    readText opening fuel (escape .quotation text ++ '\x22' :: rest)
      = .ok (pointsOf text, rest) := by
  induction text generalizing fuel with
  | nil =>
    obtain ⟨fuel, rfl⟩ := Nat.exists_eq_add_one_of_ne_zero (Nat.ne_of_gt h)
    simp [readText, pointsOf]
  | cons c text ih =>
    obtain ⟨fuel, rfl⟩ := Nat.exists_eq_add_one_of_ne_zero (Nat.ne_of_gt (Nat.zero_lt_of_lt h))
    have hlength : text.length < fuel := by simpa using h
    rw [escape_cons, List.append_assoc, readText_escapeChar c opening fuel (by simp), ih hlength]
    rfl

theorem length_le_escape (m : Mark) (text : List Char) : text.length ≤ (escape m text).length := by
  induction text with
  | nil => simp
  | cons c text ih =>
    have hone : 1 ≤ (escapeChar m c).length := by
      unfold escapeChar
      split
      · simp
      · split
        · simp
        · split <;> simp
    rw [escape_cons, List.length_append, List.length_cons]
    omega

/-- A document that begins with a mark is a text, behind which nothing but space may stand. -/
theorem readDocument_mark {s : List Char} {value : Datum} :
    readDocument ('\x22' :: s) = .ok value
      ↔ ∃ text rest, readText ('\x22' :: s) (2 * (s.length + 1) + 1) s = .ok (text, rest)
        ∧ skipSpace rest = [] ∧ value = .ofPoints text := by
  have hskip : skipSpace ('\x22' :: s) = '\x22' :: s := by
    simp [skipSpace, isSpace]
  have hvalue {result : Datum × List Char} :
      readValue (2 * (s.length + 1) + 2) ('\x22' :: s) = .ok result
        ↔ ∃ text rest, readText ('\x22' :: s) (2 * (s.length + 1) + 1) s = .ok (text, rest)
          ∧ result = (.ofPoints text, rest) := by
    rw [readValue, Result.bind_eq_ok]
    constructor
    · rintro ⟨⟨text, rest⟩, hread, h⟩
      cases h
      exact ⟨text, rest, hread, rfl⟩
    · rintro ⟨text, rest, hread, rfl⟩
      exact ⟨_, hread, rfl⟩
  unfold readDocument
  rw [if_neg (by simp), hskip]
  change (readValue (2 * (s.length + 1) + 2) ('\x22' :: s) >>= _) = .ok value ↔ _
  rw [Result.bind_eq_ok]
  constructor
  · rintro ⟨result, hresult, h⟩
    obtain ⟨text, rest, hread, rfl⟩ := hvalue.mp hresult
    cases hrest : skipSpace rest with
    | nil =>
      simp only [hrest] at h
      cases h
      exact ⟨text, rest, hread, hrest, rfl⟩
    | cons c rest =>
      simp only [hrest] at h
      cases h
  · rintro ⟨text, rest, hread, hrest, rfl⟩
    refine ⟨_, hvalue.mpr ⟨text, rest, hread, rfl⟩, ?_⟩
    simp only [hrest]
    rfl

theorem readDocument_quote (text : List Char) :
    readDocument (quote text) = .ok (.text (String.ofList text)) := by
  have hlength := length_le_escape .quotation text
  rw [quote_eq, List.cons_append, readDocument_mark]
  refine ⟨pointsOf text, [], readText_escape _ text [] ?_, rfl, (ofPoints_pointsOf text).symm⟩
  rw [List.length_append]
  omega

/-- The body of a literal decodes to the text it was written for. -/
theorem readQuoted_escape (text : List Char) :
    readQuoted (escape .quotation text) = .ok (.text (String.ofList text)) := by
  rw [readQuoted, ← quote_eq, read, readDocument_quote]
  rfl

end Retrace.Json
