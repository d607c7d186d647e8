import Mathlib.Tactic.SplitIfs
import Retrace.Json.Reader
import Retrace.Literal.Quoted

/-!
# Text literals read back

A reader of text literals for any of the three marks. It knows the escapes of
the backslash, the enclosing mark and the control characters, and code points
of four digits; it refuses every other escape and all bare control characters.
A literal that is written for a text reads back as this text, and the reader
stops right behind its closing mark, whatever follows.
-/

namespace Retrace.Literal

/-- The character that stands for itself or for a control character after a backslash. -/
def escapedChar? (m : Mark) (c : Char) : Option Char :=
  if c = '\\' || c = m.char then some c
  else if c = 'n' then some '\n'
  else if c = 'r' then some '\r'
  else if c = 't' then some '\t'
  else if c = 'b' then some '\x08'
  else if c = 'f' then some '\x0c'
  else none

/-- The character of a code point; half a surrogate pair is none. -/
def codePoint? (digits : List Char) : Option Char :=
  (Json.hexQuad? digits).bind fun n =>
    if Text.isHalf n then none else some (Char.ofNat n)

/-- The text of a literal whose opening mark has been read, and what follows the closing one. -/
def takeText (m : Mark) : List Char → Option (List Char × List Char)
  | [] => none
  | ['\\'] => none
  | '\\' :: 'u' :: a :: b :: c :: d :: rest =>
    (codePoint? [a, b, c, d]).bind fun x => (takeText m rest).map fun p => (x :: p.1, p.2)
  | '\\' :: e :: rest =>
    (escapedChar? m e).bind fun x => (takeText m rest).map fun p => (x :: p.1, p.2)
  | c :: rest =>
    if c = m.char then some ([], rest)
    else if c.toNat < 0x20 then none
    else (takeText m rest).map fun p => (c :: p.1, p.2)

theorem Mark.char_not_control (m : Mark) : 0x20 ≤ m.char.toNat := by
  cases m <;> decide

theorem Mark.char_ne_backslash (m : Mark) : m.char ≠ '\\' := by
  cases m <;> decide

/-- The four ways in which a character is escaped. -/
inductive IsEscape (m : Mark) (c : Char) : List Char → Prop
  | self (h : c = '\\' ∨ c = m.char) : IsEscape m c ['\\', c]
  | letter {letter : Char} (h : controlLetter? c = some letter) : IsEscape m c ['\\', letter]
  | codePoint (h : c.toNat < 0x20) : IsEscape m c ('\\' :: 'u' :: Datum.hexDigits 4 c.toNat)
  | plain (hescape : c ≠ '\\') (hmark : c ≠ m.char) (hcontrol : 0x20 ≤ c.toNat) : IsEscape m c [c]

theorem isEscape_escapeChar (m : Mark) (c : Char) : IsEscape m c (escapeChar m c) := by
  simp only [escapeChar, Bool.or_eq_true, decide_eq_true_eq]
  split
  case isTrue h => exact .self h
  case isFalse h =>
    rw [not_or] at h
    cases hletter : controlLetter? c with
    | some letter => exact .letter hletter
    | none =>
      by_cases hcontrol : c.toNat < 0x20
      · simpa [hcontrol] using IsEscape.codePoint hcontrol
      · simpa [hcontrol] using IsEscape.plain h.1 h.2 (Nat.le_of_not_lt hcontrol)

/-! ## Reading goes forward -/

theorem length_takeText {m : Mark} {s text rest : List Char}
    (h : takeText m s = some (text, rest)) : rest.length < s.length := by
  fun_induction takeText m s generalizing text rest with
  | case1 => cases h
  | case2 => cases h
  | case3 a b c d tail ih =>
    obtain ⟨x, -, h⟩ := Option.bind_eq_some_iff.mp h
    obtain ⟨p, hp, h⟩ := Option.map_eq_some_iff.mp h
    cases h
    have := ih hp
    simp only [List.length_cons]
    omega
  | case4 e tail _ ih =>
    obtain ⟨x, -, h⟩ := Option.bind_eq_some_iff.mp h
    obtain ⟨p, hp, h⟩ := Option.map_eq_some_iff.mp h
    cases h
    have := ih hp
    simp only [List.length_cons]
    omega
  | case5 => cases h; simp
  | case6 => cases h
  | case7 c tail _ _ _ _ _ ih =>
    obtain ⟨p, hp, h⟩ := Option.map_eq_some_iff.mp h
    cases h
    have := ih hp
    simp only [List.length_cons]
    omega

/-! ## Reading what was written -/

theorem takeText_close (m : Mark) (rest : List Char) :
    takeText m (m.char :: rest) = some ([], rest) := by
  cases m <;> rfl

theorem takeText_plain {m : Mark} {c : Char} (hc : c ≠ '\\') (hm : c ≠ m.char)
    (hcontrol : ¬ c.toNat < 0x20) (rest : List Char) :
    takeText m (c :: rest) = (takeText m rest).map fun p => (c :: p.1, p.2) := by
  rw [takeText, if_neg hm, if_neg hcontrol] <;> simp [hc]

theorem takeText_letter {m : Mark} {e x : Char} (he : e ≠ 'u') (h : escapedChar? m e = some x)
    (rest : List Char) :
    takeText m ('\\' :: e :: rest) = (takeText m rest).map fun p => (x :: p.1, p.2) := by
  rw [takeText, h, Option.bind_some]
  exact fun _ _ _ _ _ h => absurd h he

theorem takeText_codePoint {m : Mark} {digits : List Char} {x : Char} (hlength : digits.length = 4)
    (h : codePoint? digits = some x) (rest : List Char) :
    takeText m ('\\' :: 'u' :: digits ++ rest)
      = (takeText m rest).map fun p => (x :: p.1, p.2) := by
  match digits, hlength with
  | [a, b, c, d], _ =>
    simp only [List.cons_append, List.nil_append]
    rw [takeText, h, Option.bind_some]

theorem escapedChar?_self {m : Mark} {c : Char} (h : c = '\\' ∨ c = m.char) :
    escapedChar? m c = some c := by
  simp [escapedChar?, h]

theorem escapedChar?_controlLetter {c letter : Char} (h : controlLetter? c = some letter)
    (m : Mark) : letter ≠ 'u' ∧ escapedChar? m letter = some c := by
  simp only [controlLetter?] at h
  split_ifs at h with hc hc hc hc hc
  all_goals cases h; subst hc; cases m <;> decide

theorem codePoint?_hexDigits {c : Char} (h : c.toNat < 0x20) :
    (Datum.hexDigits 4 c.toNat).length = 4 ∧ codePoint? (Datum.hexDigits 4 c.toNat) = some c := by
  have hall : ∀ n < 0x20, (Datum.hexDigits 4 n).length = 4
      ∧ codePoint? (Datum.hexDigits 4 n) = some (Char.ofNat n) := by decide
  simpa using hall c.toNat h

theorem isAlphanum_of_mem_hexDigits {c x : Char} (h : c.toNat < 0x20)
    (hx : x ∈ Datum.hexDigits 4 c.toNat) : x.isAlphanum = true := by
  have hall : ∀ n < 0x20, (Datum.hexDigits 4 n).all Char.isAlphanum = true := by decide
  exact List.all_eq_true.mp (hall c.toNat h) x hx

theorem not_mem_hexDigits {c d : Char} (h : c.toNat < 0x20) (hd : d.isAlphanum = false) :
    d ∉ Datum.hexDigits 4 c.toNat := by
  intro hmem
  rw [isAlphanum_of_mem_hexDigits h hmem] at hd
  cases hd

/-- An escaped character is read as the character that it was. -/
theorem takeText_escapeChar (m : Mark) (c : Char) (rest : List Char) :
    takeText m (escapeChar m c ++ rest) = (takeText m rest).map fun p => (c :: p.1, p.2) := by
  have hescape := isEscape_escapeChar m c
  generalize escapeChar m c = s at hescape ⊢
  cases hescape with
  | self h =>
    have hu : c ≠ 'u' := by
      rintro rfl
      obtain h | h := h
      · exact absurd h (by decide)
      · cases m <;> exact absurd h (by decide)
    exact takeText_letter hu (escapedChar?_self h) rest
  | letter h =>
    obtain ⟨hu, hread⟩ := escapedChar?_controlLetter h m
    exact takeText_letter hu hread rest
  | codePoint h =>
    obtain ⟨hlength, hread⟩ := codePoint?_hexDigits h
    exact takeText_codePoint hlength hread rest
  | plain hescape hmark hcontrol =>
    exact takeText_plain hescape hmark (Nat.not_lt_of_le hcontrol) rest

/-- Behind its opening mark a written literal reads as its text, up to its closing mark. -/
theorem takeText_escape (m : Mark) (s rest : List Char) :
    takeText m (escape m s ++ m.char :: rest) = some (s, rest) := by
  induction s with
  | nil => exact takeText_close m rest
  | cons c s ih => rw [escape_cons, List.append_assoc, takeText_escapeChar, ih]; rfl

theorem quote_append (text rest : List Char) :
    quote text ++ rest = '\x22' :: (escape .quotation text ++ '\x22' :: rest) := by
  simp [quote_eq]

theorem takeText_quotation (text rest : List Char) :
    takeText .quotation (escape .quotation text ++ '\x22' :: rest) = some (text, rest) :=
  takeText_escape .quotation text rest

/-! ## No control characters -/

theorem not_control_of_all {s : List Char} (h : s.all (fun c => 0x20 ≤ c.toNat) = true) :
    ∀ c ∈ s, 0x20 ≤ c.toNat :=
  fun c hc => of_decide_eq_true (List.all_eq_true.mp h c hc)

theorem controlLetter?_not_control {c letter : Char} (h : controlLetter? c = some letter) :
    0x20 ≤ letter.toNat := by
  simp only [controlLetter?] at h
  split_ifs at h
  all_goals cases h; decide

theorem hexDigits_not_control {c : Char} (h : c.toNat < 0x20) :
    ∀ x ∈ Datum.hexDigits 4 c.toNat, 0x20 ≤ x.toNat := by
  have hall : ∀ n < 0x20, (Datum.hexDigits 4 n).all (fun x => 0x20 ≤ x.toNat) = true := by
    decide
  exact not_control_of_all (hall c.toNat h)

theorem escapeChar_not_control {m : Mark} {c x : Char} (hx : x ∈ escapeChar m c) :
    0x20 ≤ x.toNat := by
  have hescape := isEscape_escapeChar m c
  generalize escapeChar m c = s at hescape hx
  cases hescape with
  | self h =>
    obtain rfl | rfl : x = '\\' ∨ x = c := by simpa using hx
    · decide
    · obtain rfl | rfl := h
      · decide
      · exact m.char_not_control
  | @letter letter h =>
    obtain rfl | rfl : x = '\\' ∨ x = letter := by simpa using hx
    · decide
    · exact controlLetter?_not_control h
  | codePoint h =>
    obtain rfl | rfl | hx : x = '\\' ∨ x = 'u' ∨ x ∈ Datum.hexDigits 4 c.toNat := by
      simpa using hx
    · decide
    · decide
    · exact hexDigits_not_control h x hx
  | plain _ _ hcontrol =>
    rw [List.mem_singleton.mp hx]
    exact hcontrol

theorem quoteWith_not_control {m : Mark} {s : List Char} {x : Char} (hx : x ∈ quoteWith m s) :
    0x20 ≤ x.toNat := by
  obtain rfl | hx | rfl : x = m.char ∨ x ∈ escape m s ∨ x = m.char := by
    simpa [quoteWith] using hx
  · exact m.char_not_control
  · obtain ⟨c, -, hc⟩ := List.mem_flatMap.mp hx
    exact escapeChar_not_control hc
  · exact m.char_not_control

end Retrace.Literal
