import Retrace.Literal.Loose
import Retrace.Proofs.Json.Quoted
import Retrace.Proofs.Literal.RoundTrip
import Retrace.Proofs.Locator.Pattern

/-!
# Escaping between each of the marks

A literal between quotation marks is the JSON text of its text. A literal between
other marks can be made from that: the quotation marks in it are bared, and then the
enclosing marks are escaped. Both steps look for single characters and for one pair
of characters, without regard to what a backslash belongs to. Nothing is misread:
every quotation mark in a JSON text has a backslash of its own in front, so a
backslash that is itself escaped never stands before one.
-/

namespace Retrace.Json

/-- The characters with an escape of two characters, and the second of these. -/
def shortEscapes : List (Char × Char) :=
  [('\x22', '\x22'), ('\\', '\\'), ('\n', 'n'), ('\r', 'r'), ('\t', 't'), ('\x08', 'b'),
    ('\x0c', 'f')]

/-- A character as it stands in a JSON text; those beyond ASCII stand for themselves. -/
def encodeChar (c : Char) : List Char :=
  match shortEscapes.lookup c with
  | some letter => ['\\', letter]
  | none => if c.toNat < 0x20 then '\\' :: 'u' :: Datum.hexDigits 4 c.toNat else [c]

/-- What stands between the marks of a JSON text. -/
def encoded (text : List Char) : List Char := text.flatMap encodeChar

/-- A text as a JSON text. -/
def encode (text : List Char) : List Char := '\x22' :: encoded text ++ ['\x22']

@[simp] theorem encoded_cons (c : Char) (text : List Char) :
    encoded (c :: text) = encodeChar c ++ encoded text := rfl

end Retrace.Json

namespace Retrace.Literal

open Json Locator

/-! ## Single characters -/

/-- Between quotation marks stands what JSON writes. -/
theorem encodeChar_eq_escapeChar (c : Char) : encodeChar c = escapeChar .quotation c := by
  by_cases hquotation : c = '\x22'
  · subst hquotation
    rfl
  by_cases hbackslash : c = '\\'
  · subst hbackslash
    rfl
  have hself : ¬ ((c = '\\' || c = Mark.quotation.char) = true) := by
    simp [hbackslash, hquotation, Mark.char]
  have hlookup : shortEscapes.lookup c = controlLetter? c := by
    have hcons (d letter : Char) (rest : List (Char × Char)) :
        ((d, letter) :: rest).lookup c = if c = d then some letter else rest.lookup c := by
      by_cases h : c = d
      · simp [h]
      · rw [List.lookup_cons, beq_false_of_ne h, if_neg h]
    simp only [shortEscapes, hcons, if_neg hquotation, if_neg hbackslash, List.lookup_nil]
    rfl
  cases hletter : controlLetter? c with
  | some letter => simp only [encodeChar, escapeChar, if_neg hself, hlookup, hletter]
  | none => simp only [encodeChar, escapeChar, if_neg hself, hlookup, hletter]

theorem encoded_eq_escape (text : List Char) : encoded text = escape .quotation text := by
  rw [encoded, funext encodeChar_eq_escapeChar, escape]

theorem escapeChar_of_ne {m n : Mark} {c : Char} (hm : c ≠ m.char) (hn : c ≠ n.char) :
    escapeChar m c = escapeChar n c := by
  simp [escapeChar, hm, hn]

theorem mark_ne_controlLetter {c letter : Char} (h : controlLetter? c = some letter) (n : Mark) :
    n.char ≠ letter := by
  simp only [controlLetter?] at h
  split_ifs at h
  all_goals cases h; cases n <;> decide

theorem Mark.isAlphanum_char (m : Mark) : m.char.isAlphanum = false := by
  cases m <;> decide

/-- A mark stands in an escaped character only if it is this character. -/
theorem eq_of_mark_mem_escapeChar {m n : Mark} {c : Char} (hn : n.char ∈ escapeChar m c) :
    c = n.char := by
  have hescape := isEscape_escapeChar m c
  generalize escapeChar m c = s at hescape hn
  cases hescape with
  | self =>
    obtain hn | hn : n.char = '\\' ∨ n.char = c := by simpa using hn
    · exact absurd hn n.char_ne_backslash
    · exact hn.symm
  | @letter letter h =>
    obtain hn | hn : n.char = '\\' ∨ n.char = letter := by simpa using hn
    · exact absurd hn n.char_ne_backslash
    · exact absurd hn (mark_ne_controlLetter h n)
  | codePoint h =>
    obtain hn | hn | hn : n.char = '\\' ∨ n.char = 'u' ∨ n.char ∈ Datum.hexDigits 4 c.toNat := by
      simpa using hn
    · exact absurd hn n.char_ne_backslash
    · cases n <;> exact absurd hn (by decide)
    · exact absurd hn (not_mem_hexDigits h n.isAlphanum_char)
  | plain => exact (List.mem_singleton.mp hn).symm

/-! ## Two passes over a JSON text -/

/-- Puts a backslash before each enclosing mark and changes nothing else. -/
def escapeEach (m : Mark) (s : List Char) : List Char :=
  s.flatMap fun c => if c = m.char then ['\\', c] else [c]

/-- A JSON text between other marks: its quotation marks are bared, the new marks escaped. -/
def requote (m : Mark) (json : List Char) : List Char :=
  m.char :: escapeEach m (bareMarks (json.drop 1).dropLast) ++ [m.char]

theorem bareMarks_cons {c : Char} {s : List Char} (h : s.head? ≠ some '\x22') :
    bareMarks (c :: s) = c :: bareMarks s := by
  rw [bareMarks]
  rintro rest rfl rfl
  exact h rfl

/-- Where no mark stands in a text or right behind it, nothing is bared. -/
theorem bareMarks_append {s rest : List Char} (hs : '\x22' ∉ s)
    (hrest : rest.head? ≠ some '\x22') : bareMarks (s ++ rest) = s ++ bareMarks rest := by
  induction s with
  | nil => rfl
  | cons c s ih =>
    obtain ⟨-, hs⟩ := not_or.mp (List.mem_cons.not.mp hs)
    have hhead : (s ++ rest).head? ≠ some '\x22' := by
      cases s with
      | nil => exact hrest
      | cons d s =>
        intro h
        cases h
        exact hs (by simp)
    rw [List.cons_append, bareMarks_cons hhead, ih hs, List.cons_append]

/-- A quotation mark in a JSON text has its backslash, also at the beginning. -/
theorem head?_encoded (text : List Char) : (encoded text).head? ≠ some '\x22' := by
  cases text with
  | nil => simp [encoded]
  | cons c text =>
    rw [encoded_cons, encodeChar_eq_escapeChar]
    have hescape := isEscape_escapeChar .quotation c
    generalize escapeChar .quotation c = s at hescape
    cases hescape with
    | plain _ hmark =>
      rw [List.singleton_append, List.head?_cons, Option.some_inj.ne]
      exact hmark
    | _ => simp

/-- Each quotation mark is bared, and nothing else is changed. -/
theorem bareMarks_encoded (text : List Char) :
    bareMarks (encoded text)
      = text.flatMap fun c => if c = '\x22' then ['\x22'] else encodeChar c := by
  induction text with
  | nil => rfl
  | cons c text ih =>
    rw [encoded_cons, List.flatMap_cons, ← ih]
    split
    case isTrue hc =>
      subst hc
      rfl
    case isFalse hc =>
      apply bareMarks_append _ (head?_encoded text)
      intro h
      rw [encodeChar_eq_escapeChar] at h
      exact hc (eq_of_mark_mem_escapeChar (n := .quotation) h)

theorem escapeEach_of_not_mem {m : Mark} {s : List Char} (h : m.char ∉ s) :
    escapeEach m s = s := by
  induction s with
  | nil => rfl
  | cons c s ih =>
    obtain ⟨hc, hs⟩ := not_or.mp (List.mem_cons.not.mp h)
    rw [escapeEach, List.flatMap_cons, if_neg (Ne.symm hc), ← escapeEach, ih hs]
    rfl

theorem escapeEach_bared (m : Mark) (c : Char) :
    escapeEach m (if c = '\x22' then ['\x22'] else encodeChar c) = escapeChar m c := by
  by_cases hquotation : c = '\x22'
  · subst hquotation
    cases m <;> rfl
  rw [if_neg hquotation, encodeChar_eq_escapeChar]
  by_cases hmark : c = m.char
  · subst hmark
    cases m with
    | quotation => exact absurd rfl hquotation
    | _ => rfl
  · have hnot : m.char ∉ escapeChar .quotation c := fun h => hmark (eq_of_mark_mem_escapeChar h)
    rw [escapeEach_of_not_mem hnot]
    exact escapeChar_of_ne hquotation hmark

/-- The two passes write the literal between the given marks. -/
theorem requote_encode (m : Mark) (text : List Char) :
    requote m (encode text) = quoteWith m text := by
  have hinside : ((encode text).drop 1).dropLast = encoded text := by
    rw [encode, List.cons_append, List.drop_one, List.tail_cons, List.dropLast_concat]
  have hpasses : escapeEach m (bareMarks (encoded text)) = escape m text := by
    rw [bareMarks_encoded, escapeEach, List.flatMap_assoc, escape]
    congr 1
    funext c
    exact escapeEach_bared m c
  rw [requote, hinside, hpasses, quoteWith]

/-! ## Where a literal ends -/

/-- Atoms that may stand between two marks: the mark itself is in a pair, and no other
mark is. -/
structure AreInside (m : Mark) (atoms : List Atom) : Prop where
  mark : Atom.single m.char m.char_ne_backslash ∉ atoms
  other : ∀ n, n ≠ m → Atom.pair n.char ∉ atoms

theorem AreInside.append {m : Mark} {a b : List Atom} (ha : AreInside m a) (hb : AreInside m b) :
    AreInside m (a ++ b) := by
  constructor
  · simp [ha.mark, hb.mark]
  · intro n hn
    simp [ha.other n hn, hb.other n hn]

theorem exists_singles {m : Mark} {s : List Char} (hescape : '\\' ∉ s) (hmark : m.char ∉ s) :
    ∃ atoms, textOf atoms = s ∧ AreInside m atoms := by
  induction s with
  | nil => exact ⟨[], rfl, by constructor <;> simp⟩
  | cons c s ih =>
    obtain ⟨hc, hs⟩ := not_or.mp (List.mem_cons.not.mp hescape)
    obtain ⟨hcm, hsm⟩ := not_or.mp (List.mem_cons.not.mp hmark)
    obtain ⟨atoms, rfl, hinside⟩ := ih hs hsm
    have hfirst : AreInside m [.single c (Ne.symm hc)] := by
      constructor
      · simpa using hcm
      · simp
    exact ⟨_, rfl, hfirst.append hinside⟩

theorem areInside_pair {m : Mark} {d : Char} (h : ∀ n : Mark, n ≠ m → n.char ≠ d) :
    AreInside m [.pair d] := by
  constructor
  · simp
  · intro n hn
    simpa using h n hn

theorem exists_atoms_escapeChar (m : Mark) (c : Char) :
    ∃ atoms, textOf atoms = escapeChar m c ∧ AreInside m atoms := by
  have hescape := isEscape_escapeChar m c
  generalize escapeChar m c = s at hescape
  cases hescape with
  | self h =>
    refine ⟨[.pair c], rfl, areInside_pair ?_⟩
    rintro n hn rfl
    obtain h | h := h
    · exact n.char_ne_backslash h
    · exact hn (Mark.char_injective h)
  | @letter letter h =>
    exact ⟨[.pair letter], rfl, areInside_pair fun n _ => mark_ne_controlLetter h n⟩
  | codePoint h =>
    obtain ⟨atoms, hatoms, hinside⟩ := exists_singles
      (not_mem_hexDigits h (d := '\\') (by decide)) (not_mem_hexDigits h m.isAlphanum_char)
    have hpair : AreInside m [.pair 'u'] := by
      apply areInside_pair
      intro n _
      cases n <;> decide
    exact ⟨.pair 'u' :: atoms, by rw [textOf_pair, hatoms], hpair.append hinside⟩
  | plain hescape hmark =>
    apply exists_singles
    · simpa using hescape.symm
    · simpa using Ne.symm hmark

theorem exists_atoms_escape (m : Mark) (text : List Char) :
    ∃ atoms, textOf atoms = escape m text ∧ AreInside m atoms := by
  induction text with
  | nil => exact exists_singles (by simp) (by simp)
  | cons c text ih =>
    obtain ⟨first, hfirst, hinside⟩ := exists_atoms_escapeChar m c
    obtain ⟨atoms, hatoms, hrest⟩ := ih
    refine ⟨first ++ atoms, ?_, hinside.append hrest⟩
    rw [escape_cons, ← hfirst, ← hatoms, textOf, textOf, textOf, List.flatMap_append]

/-! ## The literal -/

/-- A literal stands between its marks and holds no control character. The closing mark is the
first one that no backslash takes along, and no other mark is in a pair. What stands between the
marks decodes to the text. The literal is made of the JSON text in two passes, and between
quotation marks it is the JSON text and the literal of a value. -/
theorem quoteWith_encloses (m : Mark) (text : List Char) :
    ∃ inside atoms, quoteWith m text = m.char :: inside ++ [m.char]
      ∧ (∀ c ∈ quoteWith m text, 0x20 ≤ c.toNat)
      ∧ atoms? inside = some atoms ∧ AreInside m atoms
      ∧ takeText m (inside ++ [m.char]) = some (text, [])
      ∧ quoteWith m text = requote m (encode text)
      ∧ (m = .quotation → quoteWith m text = encode text
        ∧ Json.write (.text (String.ofList text)) = .ok (encode text)
        ∧ readDocument (encode text) = .ok (.text (String.ofList text))
        ∧ read? (encode text) = some (.text (String.ofList text))) := by
  obtain ⟨atoms, hatoms, hinside⟩ := exists_atoms_escape m text
  refine ⟨escape m text, atoms, rfl, ?_, atoms?_eq_some_iff.mpr hatoms, hinside, ?_, ?_, ?_⟩
  · intro c hc
    exact quoteWith_not_control hc
  · exact takeText_escape m text []
  · exact (requote_encode m text).symm
  · rintro rfl
    have hencode : encode text = quote text := by rw [encode, encoded_eq_escape, quote_eq]
    refine ⟨hencode.symm, ?_, ?_, ?_⟩
    · rw [hencode, write_text, String.toList_ofList]
    · rw [hencode, readDocument_quote]
    · rw [hencode]
      exact (Reads.quote text).read?

end Retrace.Literal
