import Mathlib.Data.Nat.Init
import Mathlib.Tactic.Common
import Retrace.Locator.Value

/-!
# Patterns between slashes

A pattern is made of single characters and of pairs of a backslash and the
character it takes along. Written between quotation marks, a slash stands alone
and a mark in a pair; everything else stays. The rewriting looks for a backslash
before a slash, and for a mark, without regard to pairs. So it changes more than
that where a mark is in a pair already, and where the backslash before a slash is
itself taken along by another.
-/

namespace Retrace.Locator

/-! ## Atoms -/

/-- A character of its own, or one that a backslash takes along. -/
inductive Atom where
  | single (c : Char) (plain : c ≠ '\\')
  | pair (c : Char)
  deriving DecidableEq

namespace Atom

def text : Atom → List Char
  | single c _ => [c]
  | pair c => ['\\', c]

/-- The same atom between quotation marks: a slash needs no backslash there, but a mark does. -/
def quoted : Atom → Atom
  | pair '/' => single '/' (by decide)
  | single '\x22' _ => pair '\x22'
  | a => a

end Atom

def textOf (atoms : List Atom) : List Char := atoms.flatMap Atom.text

@[simp] theorem textOf_nil : textOf [] = [] := rfl

@[simp] theorem textOf_single (c : Char) (h : c ≠ '\\') (atoms : List Atom) :
    textOf (.single c h :: atoms) = c :: textOf atoms := rfl

@[simp] theorem textOf_pair (c : Char) (atoms : List Atom) :
    textOf (.pair c :: atoms) = '\\' :: c :: textOf atoms := rfl

/-- The atoms of a text, if no backslash is left alone at its end. -/
def atoms? : List Char → Option (List Atom)
  | [] => some []
  | c :: rest =>
    if h : c = '\\' then
      match rest with
      | [] => none
      | d :: rest => (atoms? rest).map (.pair d :: ·)
    else (atoms? rest).map (.single c h :: ·)

theorem atoms?_textOf (atoms : List Atom) : atoms? (textOf atoms) = some atoms := by
  induction atoms with
  | nil => simp [atoms?]
  | cons a atoms ih =>
    cases a with
    | single c h =>
      rw [textOf_single, atoms?.eq_def]
      dsimp only
      rw [dif_neg h, ih]
      rfl
    | pair c =>
      rw [textOf_pair, atoms?, dif_pos rfl, ih]
      rfl

theorem atoms?_eq_some_iff {s : List Char} {atoms : List Atom} :
    atoms? s = some atoms ↔ textOf atoms = s := by
  constructor
  · intro h
    fun_induction atoms? s generalizing atoms with
    | case1 => cases h; rfl
    | case2 => cases h
    | case3 d rest ih =>
      obtain ⟨tail, htail, rfl⟩ := Option.map_eq_some_iff.mp h
      rw [textOf_pair, ih htail]
    | case4 c rest hc ih =>
      obtain ⟨tail, htail, rfl⟩ := Option.map_eq_some_iff.mp h
      rw [textOf_single, ih htail]
  · rintro rfl
    exact atoms?_textOf atoms

/-! ## Writing -/

/-- The atoms that a pattern is written with. -/
def written : List Atom → List Atom
  | [] => []
  | .pair '\\' :: .single '/' _ :: rest => .pair '/' :: written rest
  | .pair '\x22' :: rest => .pair '\\' :: .single '\x22' (by decide) :: written rest
  | a :: rest => a.quoted :: written rest

/-- No mark is in a pair, and no slash of its own stands behind a pair of backslashes. -/
def isRegular : List Atom → Bool
  | [] => true
  | .pair '\\' :: .single '/' _ :: _ => false
  | .pair '\x22' :: _ => false
  | _ :: rest => isRegular rest

theorem unescapeSlashes_cons {c : Char} {s : List Char} (h : c ≠ '\\' ∨ s.head? ≠ some '/') :
    unescapeSlashes (c :: s) = c :: unescapeSlashes s := by
  rw [unescapeSlashes]
  rintro rest rfl rfl
  simp at h

theorem escapeMarks_cons {c : Char} (h : c ≠ '\x22') (s : List Char) :
    Literal.escapeMarks (c :: s) = c :: Literal.escapeMarks s := by
  simp [Literal.escapeMarks, h]

theorem escapeMarks_mark (s : List Char) :
    Literal.escapeMarks ('\x22' :: s) = '\\' :: '\x22' :: Literal.escapeMarks s := rfl

theorem eq_single_of_head? {c : Char} {atoms : List Atom} (hc : c ≠ '\\')
    (h : (textOf atoms).head? = some c) : ∃ rest, atoms = .single c hc :: rest := by
  cases atoms with
  | nil => cases h
  | cons a rest =>
    cases a with
    | single d hd =>
      obtain rfl : d = c := by simpa using h
      exact ⟨rest, rfl⟩
    | pair d =>
      obtain rfl : '\\' = c := by simpa using h
      exact absurd rfl hc

theorem escapeMarks_unescapeSlashes (atoms : List Atom) :
    Literal.escapeMarks (unescapeSlashes (textOf atoms)) = textOf (written atoms) := by
  fun_induction written atoms with
  | case1 => rfl
  | case2 h rest ih =>
    have hslash : unescapeSlashes ('\\' :: '\\' :: '/' :: textOf rest)
        = '\\' :: '/' :: unescapeSlashes (textOf rest) := by
      rw [unescapeSlashes_cons (by simp), unescapeSlashes]
    rw [textOf_pair, textOf_single, hslash, escapeMarks_cons (by decide),
      escapeMarks_cons (by decide), ih, textOf_pair]
  | case3 rest ih =>
    rw [textOf_pair, unescapeSlashes_cons (by simp), unescapeSlashes_cons (by simp),
      escapeMarks_cons (by decide), escapeMarks_mark, ih]
    rfl
  | case4 a rest hslash hmark ih =>
    cases a with
    | single c hc =>
      rw [textOf_single, unescapeSlashes_cons (.inl hc)]
      by_cases hquotation : c = '\x22'
      · subst hquotation
        rw [escapeMarks_mark, ih]
        rfl
      · rw [escapeMarks_cons hquotation, ih]
        simp [Atom.quoted, hquotation]
    | pair d =>
      rw [textOf_pair]
      by_cases hd : d = '/'
      · subst hd
        rw [unescapeSlashes, escapeMarks_cons (by decide), ih]
        rfl
      · have hquotation : d ≠ '\x22' := by
          rintro rfl
          exact hmark rfl
        have hrest : d ≠ '\\' ∨ (textOf rest).head? ≠ some '/' := by
          by_contra hnot
          obtain ⟨hbackslash, hhead⟩ := not_or.mp hnot
          obtain ⟨after, hafter⟩ := eq_single_of_head? (by decide) (not_not.mp hhead)
          exact hslash _ after (congrArg Atom.pair (not_not.mp hbackslash)) hafter
        rw [unescapeSlashes_cons (by simpa using hd), unescapeSlashes_cons hrest,
          escapeMarks_cons (by decide), escapeMarks_cons hquotation, ih]
        simp [Atom.quoted, hd]

theorem written_eq_map_iff (atoms : List Atom) :
    written atoms = atoms.map Atom.quoted ↔ isRegular atoms = true := by
  fun_induction written atoms with
  | case1 => simp [isRegular]
  | case2 h rest ih => simp [isRegular, Atom.quoted]
  | case3 rest ih => simp [isRegular, Atom.quoted]
  | case4 a rest hslash hmark ih =>
    rw [isRegular, List.map_cons, List.cons_eq_cons]
    · simpa using ih
    · exact hslash
    · exact hmark

theorem Atom.quoted_ne_mark (a : Atom) : a.quoted ≠ .single '\x22' (by decide) := by
  fun_cases Atom.quoted a with
  | case1 => simp
  | case2 => simp
  | case3 a hslash hmark =>
    rintro rfl
    exact hmark _ rfl

/-- A mark stands alone where one was in a pair. -/
theorem mark_mem_written_iff (atoms : List Atom) :
    Atom.single '\x22' (by decide) ∈ written atoms ↔ Atom.pair '\x22' ∈ atoms := by
  fun_induction written atoms with
  | case1 => simp
  | case2 h rest ih => simpa using ih
  | case3 rest ih => simp
  | case4 a rest hslash hmark ih =>
    have ha : Atom.pair '\x22' ≠ a := by
      rintro rfl
      exact hmark rfl
    simp [ha, ih, a.quoted_ne_mark.symm]

/-! ## Raw literals -/

/-- The body of a raw literal whose opening mark has been read, and what follows the
closing mark. A backslash takes any character along. -/
def takeRaw : List Char → Option (List Char × List Char)
  | [] => none
  | '\x22' :: rest => some ([], rest)
  | ['\\'] => none
  | '\\' :: d :: rest => (takeRaw rest).map fun p => ('\\' :: d :: p.1, p.2)
  | c :: rest => (takeRaw rest).map fun p => (c :: p.1, p.2)

theorem takeRaw_textOf_iff (atoms : List Atom) (rest : List Char) :
    takeRaw (textOf atoms ++ '\x22' :: rest) = some (textOf atoms, rest)
      ↔ Atom.single '\x22' (by decide) ∉ atoms := by
  induction atoms with
  | nil => simp [takeRaw]
  | cons a atoms ih =>
    cases a with
    | single c hc =>
      by_cases hmark : c = '\x22'
      · subst hmark
        simp [takeRaw]
      · have hstep : takeRaw (c :: (textOf atoms ++ '\x22' :: rest))
            = (takeRaw (textOf atoms ++ '\x22' :: rest)).map fun p => (c :: p.1, p.2) := by
          rw [takeRaw] <;> simp [hmark, hc]
        rw [textOf_single, List.cons_append, hstep]
        simp [Option.map_eq_some_iff, ← ih, Ne.symm hmark]
    | pair d =>
      rw [textOf_pair, List.cons_append, List.cons_append, takeRaw]
      simp [Option.map_eq_some_iff, ← ih]

/-! ## Expressions -/

theorem splitAtLastSlash_eq_none {s : List Char} (h : '/' ∉ s) : splitAtLastSlash s = none := by
  induction s with
  | nil => rfl
  | cons c s ih =>
    obtain ⟨hc, hs⟩ := not_or.mp (List.mem_cons.not.mp h)
    rw [splitAtLastSlash, ih hs]
    exact if_neg (Ne.symm hc)

theorem splitAtLastSlash_append (s : List Char) {after : List Char} (h : '/' ∉ after) :
    splitAtLastSlash (s ++ '/' :: after) = some (s, after) := by
  induction s with
  | nil =>
    rw [List.nil_append, splitAtLastSlash, splitAtLastSlash_eq_none h]
    rfl
  | cons c s ih =>
    rw [List.cons_append, splitAtLastSlash, ih]

theorem isPatternFlag_iff (c : Char) : isPatternFlag c = true ↔ c ∈ "dgimsuy".toList := by
  have hflags : "dgimsuy".toList = ['d', 'g', 'i', 'm', 's', 'u', 'y'] := by decide
  rw [hflags]
  simp [isPatternFlag, or_assoc]

theorem patternParts?_slashed (source : List Char) {flags : List Char}
    (h : ∀ c ∈ flags, c ∈ "dgimsuy".toList) :
    patternParts? ('/' :: source ++ '/' :: flags) = some (source, flags) := by
  have hslash : '/' ∉ flags := by
    intro hmem
    exact absurd (h '/' hmem) (by decide)
  have hbreak : flags.getLast? ≠ some '\n' := by
    intro hlast
    exact absurd (h '\n' (List.mem_of_getLast? hlast)) (by decide)
  have hflags : flags.all isPatternFlag = true := by
    rw [List.all_eq_true]
    intro c hc
    exact (isPatternFlag_iff c).mpr (h c hc)
  rw [List.cons_append, patternParts?, splitAtLastSlash_append source hslash]
  simp [dropFinalBreak, hbreak, hflags]

theorem pattern?_slashed (source : List Char) {flags : List Char}
    (h : ∀ c ∈ flags, c ∈ "dgimsuy".toList) :
    pattern? ('/' :: source ++ '/' :: flags)
      = some (.pattern (Literal.escapeMarks (unescapeSlashes source)) (flags.contains 'i')) := by
  rw [pattern?, patternParts?_slashed source h]
  rfl

/-- What stands behind the closing mark of a pattern's literal. -/
def patternEnd (flags : List Char) : List Char :=
  (if 'i' ∈ flags then ", re.IGNORECASE" else "").toList ++ [')']

theorem write_pattern_flags (source flags : List Char) :
    (Matcher.pattern source (flags.contains 'i')).write
      = "re.compile(r\x22".toList ++ source ++ '\x22' :: patternEnd flags := by
  rw [Matcher.write_pattern, List.append_assoc, List.cons_append, patternEnd]
  simp only [List.contains_iff_mem]

/-- A pattern between slashes becomes a raw literal. The mark written to close it is the
first one outside pairs just if the pattern has no mark in a pair; its body is the same
pattern just if, moreover, no slash of its own stands behind a pair of backslashes. -/
theorem write_readMatcher_slashed [Text.View] {source flags : List Char} {atoms : List Atom}
    (hatoms : atoms? source = some atoms) (hflags : ∀ c ∈ flags, c ∈ "dgimsuy".toList) :
    ∃ body,
      Matcher.write <$> readMatcher ('/' :: source ++ '/' :: flags)
        = .ok ("re.compile(r\x22".toList ++ body ++ '\x22' :: patternEnd flags)
      ∧ (takeRaw (body ++ '\x22' :: patternEnd flags) = some (body, patternEnd flags)
          ↔ Atom.pair '\x22' ∉ atoms)
      ∧ (atoms? body = some (atoms.map Atom.quoted) ↔ isRegular atoms = true) := by
  obtain rfl := atoms?_eq_some_iff.mp hatoms
  refine ⟨textOf (written atoms), ?_, ?_, ?_⟩
  · rw [readMatcher, pattern?_slashed _ hflags, escapeMarks_unescapeSlashes]
    exact congrArg Except.ok (write_pattern_flags _ flags)
  · rw [takeRaw_textOf_iff, mark_mem_written_iff]
  · rw [atoms?_textOf, Option.some_inj, written_eq_map_iff]

theorem write_readMatcher_slashed_mark :
    (∀ c ∈ ['i'], c ∈ "dgimsuy".toList)
      ∧ ∃ body,
        Matcher.write <$> readMatcher ('/' :: "a\\/b\x22".toList ++ '/' :: ['i'])
          = .ok ("re.compile(r\x22".toList ++ body ++ '\x22' :: patternEnd ['i'])
        ∧ takeRaw (body ++ '\x22' :: patternEnd ['i']) = some (body, patternEnd ['i'])
        ∧ atoms? body = some [.single 'a' (by decide), .single '/' (by decide),
            .single 'b' (by decide), .pair '\x22'] := by
  have hatoms : atoms? "a\\/b\x22".toList = some [.single 'a' (by decide), .pair '/',
      .single 'b' (by decide), .single '\x22' (by decide)] := by
    decide
  have hflags : ∀ c ∈ ['i'], c ∈ "dgimsuy".toList := by
    intro c hc
    rw [List.mem_singleton.mp hc]
    decide
  obtain ⟨body, hwrite, hcloses, hreads⟩ := write_readMatcher_slashed hatoms hflags
  exact ⟨hflags, body, hwrite, hcloses.mpr (by decide), hreads.mpr (by decide)⟩

/-- A mark that is in a pair already is taken out of it, and the literal ends there. -/
theorem readMatcher_pairedMark :
    atoms? "a\\\x22b".toList
        = some [.single 'a' (by decide), .pair '\x22', .single 'b' (by decide)]
      ∧ Matcher.write <$> readMatcher "/a\\\x22b/".toList
        = .ok "re.compile(r\x22a\\\\\x22b\x22)".toList
      ∧ takeRaw "a\\\\\x22b\x22)".toList = some ("a\\\\".toList, "b\x22)".toList) := by
  refine ⟨by decide, by decide, by decide⟩

end Retrace.Locator
