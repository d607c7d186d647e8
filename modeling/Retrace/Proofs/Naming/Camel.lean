import Retrace.Proofs.Literal.Canonical
import Retrace.Proofs.Naming.OnePass
import Retrace.Proofs.Text.Join
import Retrace.Proofs.Text.Lower

/-!
# Names in camel case

A name in camel case is made of words, each of which but the first begins with a
capital that does not stand alone. Its keyword is made of the same words, lowered
and with underscores between them, so the name can be read off its keyword, and
options under different names get different keywords.
-/

namespace Retrace.Naming

/-- A small letter, and small letters and digits behind it. -/
def IsFirstWord (word : List Char) : Prop :=
  ∃ c rest, word = c :: rest ∧ isSmall c = true ∧ ∀ x ∈ rest, isSmallOrDigit x = true

/-- A capital, and at least one small letter or digit behind it. -/
def IsLaterWord (word : List Char) : Prop :=
  ∃ c rest, word = c :: rest ∧ isCapital c = true ∧ rest ≠ []
    ∧ ∀ x ∈ rest, isSmallOrDigit x = true

/-- A name in camel case, with its words. -/
structure IsCamel (name first : List Char) (others : List (List Char)) : Prop where
  isFirst : IsFirstWord first
  areLater : ∀ word ∈ others, IsLaterWord word
  name_eq : name = first ++ others.flatten

def capitalised : List Char → List Char
  | [] => []
  | c :: rest => c.toUpper :: rest

/-- The name in camel case whose words stand between underscores. -/
def camelCase (keyword : List Char) : List Char :=
  match keyword.splitOn '_' with
  | [] => []
  | first :: others => first ++ (others.map capitalised).flatten

section

variable {run word name first rest : List Char} {others words : List (List Char)} {c : Char}

/-! ## Words are marked -/

/-- What follows a word is marked off, and the word is left as it is. -/
def IsMarkedOff (word : List Char) : Prop :=
  ∀ rest : List Char, (∀ c ∈ rest.head?, isCapital c = true) →
    markWords (word ++ rest) = if rest = [] then word else word ++ '_' :: markWords rest

theorem isMarkedOff_of_run (hne : run ≠ []) (h : ∀ x ∈ run, isSmallOrDigit x = true) :
    IsMarkedOff run := by
  intro rest hrest
  induction run with
  | nil => exact absurd rfl hne
  | cons a run ih =>
    obtain ⟨ha, hrun⟩ := List.forall_mem_cons.mp h
    cases run with
    | nil =>
      cases rest with
      | nil => rfl
      | cons b rest => simp [markWords, beginsWord, ha, hrest b rfl]
    | cons b run =>
      have hb := not_isCapital_of_isSmallOrDigit (hrun b List.mem_cons_self)
      have hnot (s : List Char) : beginsWord a b s = false := by simp [beginsWord, endsRun, hb]
      rw [List.cons_append, List.cons_append, markWords, hnot, if_neg (by decide),
        ← List.cons_append, ih (List.cons_ne_nil b run) hrun]
      split <;> rfl

theorem IsFirstWord.isMarkedOff (h : IsFirstWord word) : IsMarkedOff word := by
  obtain ⟨c, rest, rfl, hc, hrest⟩ := h
  exact isMarkedOff_of_run (List.cons_ne_nil c rest)
    (List.forall_mem_cons.mpr ⟨isSmallOrDigit_of_isSmall hc, hrest⟩)

theorem IsLaterWord.isMarkedOff (h : IsLaterWord word) : IsMarkedOff word := by
  obtain ⟨c, run, rfl, -, hne, hrun⟩ := h
  intro rest hrest
  obtain ⟨x, behind, rfl⟩ := List.exists_cons_of_ne_nil hne
  have hx := not_isCapital_of_isSmallOrDigit (hrun x List.mem_cons_self)
  have hnot (s : List Char) : beginsWord c x s = false := by simp [beginsWord, endsRun, hx]
  rw [List.cons_append, List.cons_append, markWords, hnot, if_neg (by decide),
    ← List.cons_append, isMarkedOff_of_run hne hrun rest hrest]
  split <;> rfl

theorem markWords_words (hword : IsMarkedOff word) (h : ∀ w ∈ others, IsLaterWord w) :
    markWords (word ++ others.flatten) = ['_'].intercalate (word :: others) := by
  induction others generalizing word with
  | nil => simpa using hword [] (by simp)
  | cons next others ih =>
    obtain ⟨hnext, hothers⟩ := List.forall_mem_cons.mp h
    have hrest := ih hnext.isMarkedOff hothers
    obtain ⟨c, run, hcons, hc, -, -⟩ := hnext
    rw [List.intercalate_cons_cons, ← hrest, List.flatten_cons,
      hword _ (by simpa [hcons] using hc), if_neg (by simp [hcons])]
    simp

/-! ## Words are lowered -/

theorem lowersAlone_of_lt (h : c.toNat < 0x80) : c ≠ 'Σ' ∧ c ≠ 'İ' := by
  constructor
  · rintro rfl
    exact absurd h (by decide)
  · rintro rfl
    exact absurd h (by decide)

theorem lowerChar_of_isSmallOrDigit (h : isSmallOrDigit c = true) : Text.lowerChar c = c := by
  rw [isSmallOrDigit_iff] at h
  apply Text.lowerChar_eq_self <;> omega

theorem toUpper_lowerChar (h : isCapital c = true) :
    isSmall (Text.lowerChar c) = true ∧ (Text.lowerChar c).toUpper = c := by
  rw [isCapital_iff] at h
  have hall : ∀ n < 26, isSmall (Text.lowerChar (Char.ofNat (0x41 + n))) = true
      ∧ (Text.lowerChar (Char.ofNat (0x41 + n))).toUpper = Char.ofNat (0x41 + n) := by decide
  have hc : 0x41 + (c.toNat - 0x41) = c.toNat := by omega
  have hthis := hall (c.toNat - 0x41) (by omega)
  rwa [hc, Char.ofNat_toNat] at hthis

theorem map_lowerChar (h : ∀ x ∈ run, isSmallOrDigit x = true) : run.map Text.lowerChar = run := by
  rw [List.map_congr_left fun x hx => lowerChar_of_isSmallOrDigit (h x hx), List.map_id']

/-- The characters of a word: all of them are plain ones. -/
theorem lt_of_mem_word (h : IsFirstWord word ∨ IsLaterWord word) : ∀ x ∈ word, x.toNat < 0x80 := by
  have hsmall {x : Char} (hx : isSmallOrDigit x = true) : x.toNat < 0x80 := by
    rw [isSmallOrDigit_iff] at hx
    omega
  obtain ⟨c, rest, rfl, hc, hrest⟩ | ⟨c, rest, rfl, hc, -, hrest⟩ := h
  · exact List.forall_mem_cons.mpr
      ⟨hsmall (isSmallOrDigit_of_isSmall hc), fun x hx => hsmall (hrest x hx)⟩
  · rw [isCapital_iff] at hc
    exact List.forall_mem_cons.mpr ⟨by omega, fun x hx => hsmall (hrest x hx)⟩

theorem lower_of_lt (h : ∀ x ∈ word, x.toNat < 0x80) : Text.lower word = word.map Text.lowerChar :=
  Text.lower_eq_map fun x hx => lowersAlone_of_lt (h x hx)

theorem IsFirstWord.lower_eq (h : IsFirstWord word) : Text.lower word = word := by
  rw [lower_of_lt (lt_of_mem_word (.inl h))]
  obtain ⟨c, rest, rfl, hc, hrest⟩ := h
  exact map_lowerChar (List.forall_mem_cons.mpr ⟨isSmallOrDigit_of_isSmall hc, hrest⟩)

/-- A lowered word tells the word: its first letter is the capital's. -/
theorem IsLaterWord.capitalised_lower (h : IsLaterWord word) :
    (∀ x ∈ Text.lower word, isSmallOrDigit x = true) ∧ capitalised (Text.lower word) = word := by
  rw [lower_of_lt (lt_of_mem_word (.inr h))]
  obtain ⟨c, rest, rfl, hc, -, hrest⟩ := h
  obtain ⟨hsmall, hupper⟩ := toUpper_lowerChar hc
  rw [List.map_cons, map_lowerChar hrest, capitalised, hupper]
  exact ⟨List.forall_mem_cons.mpr ⟨isSmallOrDigit_of_isSmall hsmall, hrest⟩, rfl⟩

theorem IsFirstWord.isSmallOrDigit (h : IsFirstWord word) :
    ∀ x ∈ Text.lower word, Naming.isSmallOrDigit x = true := by
  rw [h.lower_eq]
  obtain ⟨c, rest, rfl, hc, hrest⟩ := h
  exact List.forall_mem_cons.mpr ⟨isSmallOrDigit_of_isSmall hc, hrest⟩

theorem lower_intercalate (h : ∀ word ∈ words, ∀ x ∈ word, x.toNat < 0x80) :
    Text.lower (['_'].intercalate words) = ['_'].intercalate (words.map Text.lower) := by
  have hplain : ∀ x ∈ ['_'].intercalate words, x.toNat < 0x80 := by
    intro x hx
    obtain hx | ⟨word, hword, hx⟩ := Text.mem_intercalate hx
    · rw [List.mem_singleton.mp hx]
      decide
    · exact h word hword x hx
  have hmark : ['_'].map Text.lowerChar = ['_'] := by decide +kernel
  have hwords : words.map (List.map Text.lowerChar) = words.map Text.lower :=
    List.map_congr_left fun word hword => (lower_of_lt (h word hword)).symm
  rw [lower_of_lt hplain, Text.map_intercalate, hmark, hwords]

/-! ## Names and keywords -/

theorem IsCamel.isWord (h : IsCamel name first others) :
    ∀ word ∈ first :: others, IsFirstWord word ∨ IsLaterWord word :=
  List.forall_mem_cons.mpr ⟨.inl h.isFirst, fun word hword => .inr (h.areLater word hword)⟩

/-- The keyword of a name is made of its lowered words. -/
theorem IsCamel.snakeCase_eq (h : IsCamel name first others) :
    snakeCase name = ['_'].intercalate ((first :: others).map Text.lower) := by
  rw [Naming.snakeCase_eq, h.name_eq, markWords_words h.isFirst.isMarkedOff h.areLater]
  exact lower_intercalate fun word hword => lt_of_mem_word (h.isWord word hword)

/-- The name is read off its keyword. -/
theorem IsCamel.camelCase_snakeCase (h : IsCamel name first others) :
    camelCase (snakeCase name) = name := by
  have hmark : ∀ word ∈ (first :: others).map Text.lower, '_' ∉ word := by
    intro word hword hmem
    obtain ⟨word, hin, rfl⟩ := List.mem_map.mp hword
    have hsmall : isSmallOrDigit '_' = true := by
      obtain hfirst | hlater := h.isWord word hin
      · exact hfirst.isSmallOrDigit '_' hmem
      · exact hlater.capitalised_lower.1 '_' hmem
    exact absurd hsmall (by decide)
  have hothers : others.map (capitalised ∘ Text.lower) = others :=
    (List.map_congr_left fun word hword => (h.areLater word hword).capitalised_lower.2).trans
      (List.map_id others)
  rw [h.snakeCase_eq, camelCase, List.splitOn_intercalate '_' hmark (by simp), List.map_cons]
  dsimp only
  rw [h.isFirst.lower_eq, List.map_map, hothers, ← h.name_eq]

end

end Retrace.Naming

namespace Retrace.Literal.Options

open Naming

/-- Options under different names in camel case get different keywords. A keyword is made of the
lowered words of its name and tells the name, and the written options have no other keywords. -/
theorem write_keywords [Text.View] {options : Options} (hnames : (options.map Prod.fst).Nodup)
    (hcamel : ∀ o ∈ options, ∃ first others, IsCamel o.1.toList first others) (layout : Layout) :
    (options.map keyword).Nodup
      ∧ (∀ o ∈ options, camelCase (keyword o) = o.1.toList
        ∧ ∀ first others, IsCamel o.1.toList first others →
          keyword o = ['_'].intercalate ((first :: others).map Text.lower))
      ∧ ∀ text, options.write layout = .ok text → ∃ arguments : List (List Char × List Char),
        text = layout.join (arguments.map fun a => layout.argument a.1 a.2)
          ∧ (arguments.map Prod.fst).Nodup
          ∧ ∀ k, k ∈ arguments.map Prod.fst
            ↔ ∃ o ∈ options, o.2.isNone = false ∧ keyword o = k := by
  have hread : ∀ o ∈ options, camelCase (keyword o) = o.1.toList := by
    intro o ho
    obtain ⟨first, others, h⟩ := hcamel o ho
    exact h.camelCase_snakeCase
  have hkeywords : (options.map keyword).Nodup := by
    have hback :
        (options.map keyword).map camelCase = (options.map Prod.fst).map String.toList := by
      rw [List.map_map, List.map_map]
      exact List.map_congr_left hread
    apply List.Nodup.of_map camelCase
    rw [hback]
    exact hnames.map fun _ _ h => String.toList_injective h
  refine ⟨hkeywords, fun o ho => ⟨hread o ho, fun first others h => h.snakeCase_eq⟩, ?_⟩
  intro text htext
  have hlisting := isListing_canonical hnames
  obtain ⟨texts, htexts, rfl⟩ := (hlisting.write_eq_ok_iff hnames).mp htext
  obtain ⟨arguments, rfl, hfound⟩ := exists_arguments htexts
  refine ⟨arguments, rfl, by rw [hfound]; exact nodup_map_canonical hkeywords, ?_⟩
  intro k
  simp only [hfound, List.mem_map, hlisting.mem_iff, and_assoc]

theorem write_keywords_clickCount :
    (∀ o ∈ [("clickCount", Datum.bool true), ("x2Y3", .none)],
        ∃ first others, IsCamel o.1.toList first others)
      ∧ ([("clickCount", .bool true), ("x2Y3", .none)] : Options).map keyword
        = ["click_count".toList, "x2_y3".toList]
      ∧ (([("clickCount", .bool true), ("x2Y3", .none)] : Options).map keyword).Nodup := by
  have hclick : IsCamel "clickCount".toList "click".toList ["Count".toList] :=
    ⟨⟨'c', "lick".toList, rfl, rfl, List.all_eq_true.mp (by decide)⟩,
      List.forall_mem_singleton.mpr
        ⟨'C', "ount".toList, rfl, rfl, by decide, List.all_eq_true.mp (by decide)⟩, rfl⟩
  have hdigits : IsCamel "x2Y3".toList "x2".toList ["Y3".toList] :=
    ⟨⟨'x', ['2'], rfl, rfl, List.all_eq_true.mp (by decide)⟩,
      List.forall_mem_singleton.mpr
        ⟨'Y', ['3'], rfl, rfl, by decide, List.all_eq_true.mp (by decide)⟩, rfl⟩
  have hcamel : ∀ o ∈ [("clickCount", Datum.bool true), ("x2Y3", .none)],
      ∃ first others, IsCamel o.1.toList first others :=
    List.forall_mem_cons.mpr ⟨⟨_, _, hclick⟩, List.forall_mem_singleton.mpr ⟨_, _, hdigits⟩⟩
  exact ⟨hcamel, by decide +kernel, (write_keywords (by decide) hcamel {}).1⟩

-- a capital that stands alone is lost in the word behind it
example : keyword ("aBC", .none) = keyword ("aBc", .none) := by decide +kernel

end Retrace.Literal.Options
