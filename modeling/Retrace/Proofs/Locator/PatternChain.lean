import Retrace.Proofs.Locator.PatternValue

/-!
# Chains behind a pattern

Quotes are followed through a pattern as through any other text: a mark in it
opens a quote, and outside quotes a backslash takes nothing along. The chain
behind a pattern is cut off just if the pattern leaves no quote open. If it does
leave one open, the separator and what stands behind it belong to the same part,
whose value is no pattern any more.
-/

namespace Retrace.Locator

open Literal

section

variable {source flags : List Char}

/-- A search by text for a pattern. -/
def patternSearch (source flags : List Char) : List Char :=
  "internal:text=".toList ++ slashed source flags

theorem patternSearch_eq (source flags : List Char) :
    patternSearch source flags = "internal:text=".toList ++ slashed source flags := rfl

/-- What a search by text for a pattern is written as. -/
def patternExpression (source flags : List Char) : List Char :=
  "get_by_text(".toList ++ (slashedMatcher source flags).write ++ [')']

theorem patternExpression_eq (source flags : List Char) :
    patternExpression source flags
      = "get_by_text(".toList ++ (slashedMatcher source flags).write ++ [')'] := rfl

theorem isFrame_text : IsFrame "internal:text=".toList := isFrame_iff.mpr (by decide)

theorem isWhole_patternSearch (hwhole : ¬ separator <:+: source)
    (hflags : ∀ c ∈ flags, c ∈ "dgimsuy".toList) : IsWhole none (patternSearch source flags) :=
  IsWhole.frame_append isFrame_text (isWhole_of_unseparated (not_infix_slashed hwhole hflags) none)

/-- Neither what stands in front of a pattern nor its flags open or close a quote. -/
theorem quoteAfter_patternSearch_eq_none_iff (hflags : ∀ c ∈ flags, c ∈ "dgimsuy".toList) :
    quoteAfter none (patternSearch source flags) = none ↔ quoteAfter none source = none := by
  have hending : ∀ c ∈ '/' :: flags, IsEnding c := by
    intro c hc
    obtain rfl | hc := List.mem_cons.mp hc
    · exact isEnding_of_mem List.mem_cons_self
    · exact isEnding_of_mem (List.mem_cons_of_mem _ (hflags c hc))
  have hbehind : ∀ c ∈ '/' :: flags, isQuoteMark c = false ∧ c ≠ '\\' :=
    fun c hc => ⟨(hending c hc).unquoted, (hending c hc).unescaped⟩
  have hfront : quoteAfter none (patternSearch source flags)
      = quoteAfter none (source ++ '/' :: flags) := by
    rw [patternSearch_eq, quoteAfter_frame isFrame_text]
    rfl
  rw [hfront]
  constructor
  · intro h
    by_contra hopen
    exact quoteAfter_append_of_ne_none (by simp) hopen hbehind h
  · intro h
    rw [quoteAfter_append h, ← List.append_nil ('/' :: flags),
      quoteAfter_unquoted fun c hc => (hbehind c hc).1]
    rfl

theorem getLast?_patternSearch (source : List Char) (hflags : ∀ c ∈ flags, c ∈ "dgimsuy".toList) :
    ∃ c ∈ '/' :: "dgimsuy".toList, (patternSearch source flags).getLast? = some c := by
  obtain ⟨c, hc, hlast⟩ := getLast?_slashed source hflags
  refine ⟨c, hc, ?_⟩
  rw [patternSearch_eq, List.getLast?_append_of_ne_nil _ (by simp [slashed]), hlast]

theorem readPart_text [Text.View] (body : List Char) :
    readPart ("internal:text=".toList ++ body) = readFind .text body := by
  have hfront : IsFront "internal:text=" "internal:text" := by constructor <;> decide
  rw [hfront.readPart_eq]
  rfl

theorem writePart_patternSearch [Text.View] (source : List Char)
    (hflags : ∀ c ∈ flags, c ∈ "dgimsuy".toList) :
    writePart (patternSearch source flags)
      = .ok (patternExpression source flags) := by
  rw [writePart, patternSearch_eq, readPart_text, readFind_eq (readMatcher_slashed source hflags)]
  change Except.ok (Step.find .text _).write = _
  rw [Engine.write_find]
  exact congrArg Except.ok (expression_false _ _)

/-! ## The two cases -/

/-- A text behind the front of an engine is a part if no separator in it stands outside quotes. -/
theorem parts_text {body : List Char} {c : Char} (hlast : body.getLast? = some c)
    (hc : Text.isBlank c = false) (h : IsWhole none ("internal:text=".toList ++ body)) :
    parts ("internal:text=".toList ++ body) = ["internal:text=".toList ++ body] := by
  have hfirst : "internal:text=".toList = 'i' :: "nternal:text=".toList := by decide
  have hbody : body ≠ [] := by
    rintro rfl
    cases hlast
  have hend : ("internal:text=".toList ++ body).getLast? = some c := by
    rw [List.getLast?_append_of_ne_nil _ hbody, hlast]
  apply parts_of_isWhole _ _ h
  · rw [hfirst]
    exact List.cons_ne_nil _ _
  · apply Text.strip_eq_self (c := 'i') _ (by decide) hend hc
    rw [hfirst]
    rfl

theorem parts_patternSearch (hwhole : ¬ separator <:+: source)
    (hflags : ∀ c ∈ flags, c ∈ "dgimsuy".toList) :
    parts (patternSearch source flags) = [patternSearch source flags] := by
  obtain ⟨c, hc, hlast⟩ := getLast?_slashed source hflags
  exact parts_text hlast (isEnding_of_mem hc).visible (isWhole_patternSearch hwhole hflags)

theorem ofSelectorIn_patternSearch [Text.View] (hwhole : ¬ separator <:+: source)
    (hflags : ∀ c ∈ flags, c ∈ "dgimsuy".toList) :
    ofSelectorIn language (patternSearch source flags) = .ok (patternExpression source flags) := by
  rw [ofSelectorIn_eq_mapM, parts_patternSearch hwhole hflags, List.mapM_cons,
    writePart_patternSearch source hflags]
  exact congrArg Except.ok List.intercalate_singleton

/-- Where the pattern leaves no quote open, the chain goes on behind it. -/
theorem ofSelectorIn_of_closed [Text.View] (hwhole : ¬ separator <:+: source)
    (hflags : ∀ c ∈ flags, c ∈ "dgimsuy".toList) (hclosed : quoteAfter none source = none) :
    ofSelectorIn language (patternSearch source flags ++ separator ++ "nth=0".toList)
      = .ok (patternExpression source flags ++ ".first".toList) := by
  have hseam : ¬ seam <:+ patternSearch source flags := by
    rintro ⟨before, hbefore⟩
    obtain ⟨c, hc, hlast⟩ := getLast?_patternSearch source hflags
    rw [← hbefore, List.getLast?_append_of_ne_nil _ (by decide)] at hlast
    cases hlast
    exact absurd hc (by decide)
  have hnth : parts "nth=0".toList = ["nth=0".toList] := by decide
  have hfirst : writePart "nth=0".toList = .ok "first".toList := rfl
  have hdot : ".first".toList = '.' :: "first".toList := by decide
  rw [ofSelectorIn_eq_mapM,
    parts_append_separator ((quoteAfter_patternSearch_eq_none_iff hflags).mpr hclosed) hseam,
    parts_patternSearch hwhole hflags, hnth, List.singleton_append, List.mapM_cons,
    List.mapM_cons, List.mapM_nil, writePart_patternSearch source hflags, hfirst, hdot]
  exact congrArg Except.ok (by simp [patternExpression_eq, List.intercalate_cons_cons])

/-- A pattern ends with its flags. -/
theorem pattern?_followed (source : List Char) {behind : List Char} {c : Char}
    (hslash : '/' ∉ behind) (hbreak : behind.getLast? ≠ some '\n') (hc : c ∈ behind)
    (hflag : isPatternFlag c = false) : pattern? ('/' :: source ++ '/' :: behind) = none := by
  have hall : behind.all isPatternFlag = false := by
    rw [List.all_eq_false]
    exact ⟨c, hc, by simp [hflag]⟩
  rw [pattern?, List.cons_append, patternParts?, splitAtLastSlash_append source hslash]
  simp [dropFinalBreak, hbreak, hall]

/-- Where the pattern leaves a quote open, all that follows is one value that is no pattern. -/
theorem ofSelectorIn_of_open [Text.View] (hwhole : ¬ separator <:+: source)
    (hflags : ∀ c ∈ flags, c ∈ "dgimsuy".toList) (hopen : quoteAfter none source ≠ none) :
    ofSelectorIn language (patternSearch source flags ++ separator ++ "nth=0".toList)
      = .ok ("get_by_text(".toList
        ++ quote (slashed source flags ++ separator ++ "nth=0".toList) ++ [')']) := by
  have hopenSearch : quoteAfter none (patternSearch source flags) ≠ none := by
    rwa [Ne, quoteAfter_patternSearch_eq_none_iff hflags]
  have hlast : ∀ c ∈ (patternSearch source flags).getLast?, c ∉ separator := by
    obtain ⟨c, hc, hlast⟩ := getLast?_patternSearch source hflags
    intro d hd
    rw [hlast] at hd
    cases hd
    exact (isEnding_of_mem hc).unseparated
  have hbehind : ∀ c ∈ separator ++ "nth=0".toList, isQuoteMark c = false ∧ c ≠ '\\' := by
    have hall :
        ((separator ++ "nth=0".toList).all fun c => !isQuoteMark c && c != '\\') = true := by
      decide
    intro c hc
    simpa using List.all_eq_true.mp hall c hc
  have hwholeSearch :=
    (isWhole_patternSearch hwhole hflags).append_of_open hopenSearch hlast hbehind
  have hsearch : patternSearch source flags ++ separator ++ "nth=0".toList
      = "internal:text=".toList ++ (slashed source flags ++ separator ++ "nth=0".toList) := by
    rw [patternSearch_eq, List.append_assoc, List.append_assoc, ← List.append_assoc (slashed _ _)]
  rw [← List.append_assoc, hsearch] at hwholeSearch
  have hpart :
      parts ("internal:text=".toList ++ (slashed source flags ++ separator ++ "nth=0".toList))
      = ["internal:text=".toList ++ (slashed source flags ++ separator ++ "nth=0".toList)] := by
    apply parts_text (c := '0') _ (by decide) hwholeSearch
    rw [List.getLast?_append_of_ne_nil _ (by decide)]
    decide
  have hslash : '/' ∉ flags ++ (separator ++ "nth=0".toList) := by
    intro hmem
    obtain hmem | hmem := List.mem_append.mp hmem
    · exact absurd (hflags '/' hmem) (by decide)
    · exact absurd hmem (by decide)
  have hpattern : pattern? (slashed source flags ++ separator ++ "nth=0".toList) = none := by
    have hvalue : slashed source flags ++ separator ++ "nth=0".toList
        = '/' :: source ++ '/' :: (flags ++ (separator ++ "nth=0".toList)) := by
      simp [slashed]
    rw [hvalue]
    apply pattern?_followed source hslash (c := ' ')
    · rw [List.getLast?_append_of_ne_nil _ (by decide)]
      decide
    · exact List.mem_append_right _ (by decide)
    · decide
  have hread : readMatcher (slashed source flags ++ separator ++ "nth=0".toList)
      = .ok (.text (slashed source flags ++ separator ++ "nth=0".toList) false) := by
    rw [readMatcher, hpattern]
    rfl
  rw [hsearch, ofSelectorIn_eq_mapM, hpart, List.mapM_cons, writePart, readPart_text,
    readFind_eq hread]
  change Except.ok (['.'].intercalate [(Step.find .text _).write]) = _
  rw [Engine.write_find, List.intercalate_singleton]
  exact congrArg Except.ok (expression_false _ _)

end

/-- The choice behind a pattern is a step of its own just if the pattern leaves no quote open;
otherwise it becomes a piece of the text that is looked for. -/
theorem ofSelectorIn_slashed_chained [Text.View] {source flags : List Char}
    (hwhole : ¬ separator <:+: source) (hflags : ∀ c ∈ flags, c ∈ "dgimsuy".toList) :
    (ofSelectorIn language (patternSearch source flags ++ separator ++ "nth=0".toList)
          = (· ++ ".first".toList) <$> ofSelectorIn language (patternSearch source flags)
        ↔ quoteAfter none source = none)
      ∧ (quoteAfter none source ≠ none →
        ofSelectorIn language (patternSearch source flags ++ separator ++ "nth=0".toList)
          = .ok ("get_by_text(".toList
            ++ quote (slashed source flags ++ separator ++ "nth=0".toList) ++ [')'])) := by
  refine ⟨⟨?_, ?_⟩, ofSelectorIn_of_open hwhole hflags⟩
  · intro h
    by_contra hopen
    rw [ofSelectorIn_of_open hwhole hflags hopen, ofSelectorIn_patternSearch hwhole hflags] at h
    have h : _ = patternExpression source flags ++ ".first".toList := Except.ok.inj h
    rw [patternExpression_eq, write_slashedMatcher] at h
    generalize "get_by_text(".toList = front at h
    simp only [List.append_assoc, List.append_cancel_left_eq] at h
    exact quote_append_ne_compiled _ _ _ _ _ h
  · intro hclosed
    rw [ofSelectorIn_of_closed hwhole hflags hclosed, ofSelectorIn_patternSearch hwhole hflags]
    rfl

theorem ofSelectorIn_slashed_chained_quotes :
    ofSelectorIn language "internal:text=/say \x22hi\x22/i >> nth=0".toList
        = (· ++ ".first".toList) <$> ofSelectorIn language "internal:text=/say \x22hi\x22/i".toList
      ∧ ofSelectorIn language "internal:text=/say \\\x22hi\\\x22/i >> nth=0".toList
        ≠ (· ++ ".first".toList)
          <$> ofSelectorIn language "internal:text=/say \\\x22hi\\\x22/i".toList := by
  have hflags : ∀ c ∈ ['i'], c ∈ "dgimsuy".toList := by
    intro c hc
    rw [List.mem_singleton.mp hc]
    decide
  have hwhole : ¬ separator <:+: "say \x22hi\x22".toList := by decide
  have hwhole' : ¬ separator <:+: "say \\\x22hi\\\x22".toList := by decide
  have hclosed := (ofSelectorIn_slashed_chained hwhole hflags).1.mpr (by decide)
  have hopen := mt (ofSelectorIn_slashed_chained hwhole' hflags).1.mp (by decide)
  exact ⟨hclosed, hopen⟩

/-- An apostrophe in a pattern opens a quote, and the choice behind it becomes text. -/
theorem ofSelectorIn_apostrophe :
    ofSelectorIn language "internal:text=/it's/".toList
        = .ok "get_by_text(re.compile(r\x22it's\x22))".toList
      ∧ ofSelectorIn language "internal:text=/it's/ >> nth=0".toList
        = .ok "get_by_text(\x22/it's/ >> nth=0\x22)".toList := by
  constructor <;> decide +kernel

end Retrace.Locator
