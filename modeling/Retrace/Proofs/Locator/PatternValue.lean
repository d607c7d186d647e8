import Retrace.Proofs.Literal.Unique
import Retrace.Proofs.Locator.Engine
import Retrace.Proofs.Locator.OneLine
import Retrace.Proofs.Locator.Pattern

/-!
# Patterns as values

All engines read a pattern between slashes as the same matcher and write the
same argument for it, as long as they cut it out whole. An attribute in brackets
that stands alone ends at the last bracket, but an attribute of a role ends at
the first one, also inside a pattern: there a pattern with a closing bracket is
lost.
-/

namespace Retrace.Locator

open Literal

/-- A pattern between slashes, with its flags. -/
def slashed (source flags : List Char) : List Char := '/' :: source ++ '/' :: flags

/-- The matcher that a pattern is read as. -/
def slashedMatcher (source flags : List Char) : Matcher :=
  .pattern (escapeMarks (unescapeSlashes source)) (flags.contains 'i')

/-- The expression for a pattern whose literal has a given body. -/
def compiled (body flags : List Char) : List Char :=
  "re.compile(r\x22".toList ++ body ++ '\x22' :: patternEnd flags

theorem compiled_eq (body flags : List Char) :
    compiled body flags = "re.compile(r\x22".toList ++ body ++ '\x22' :: patternEnd flags := rfl

theorem slashed_eq (source flags : List Char) :
    slashed source flags = '/' :: (source ++ '/' :: flags) := rfl

theorem write_slashedMatcher (source flags : List Char) :
    (slashedMatcher source flags).write
      = compiled (escapeMarks (unescapeSlashes source)) flags :=
  write_pattern_flags _ flags

/-! ## The value in a selector -/

section

variable {source flags : List Char}

theorem not_infix_slashed (hwhole : ¬ separator <:+: source)
    (hflags : ∀ c ∈ flags, c ∈ "dgimsuy".toList) : ¬ separator <:+: slashed source flags := by
  intro h
  have hslash : '/' ∉ separator := by decide
  obtain h | h := separator_infix_of_append_cons (s := []) hslash h
  · exact absurd h (by decide)
  · obtain h | h := separator_infix_of_append_cons hslash h
    · exact hwhole h
    · have hspace : ' ' ∈ flags := h.subset (by decide)
      exact absurd (hflags ' ' hspace) (by decide)

/-- A character at the end of a pattern neither opens nor closes anything. -/
structure IsEnding (c : Char) : Prop where
  unquoted : isQuoteMark c = false
  unescaped : c ≠ '\\'
  unseparated : c ∉ separator
  visible : Text.isBlank c = false

/-- The flags and the slash in front of them are such characters. -/
theorem isEnding_of_mem {c : Char} (h : c ∈ '/' :: "dgimsuy".toList) : IsEnding c := by
  have hall : ('/' :: "dgimsuy".toList).all (fun c =>
      !isQuoteMark c && c != '\\' && !separator.contains c && !Text.isBlank c) = true := by
    decide
  have hc := List.all_eq_true.mp hall c h
  simp only [Bool.and_eq_true, Bool.not_eq_true', bne_iff_ne, List.contains_eq_mem,
    decide_eq_false_iff_not] at hc
  exact ⟨hc.1.1.1, hc.1.1.2, hc.1.2, hc.2⟩

/-- A flag, or the slash in front of the flags. -/
theorem getLast?_slashed (source : List Char) (hflags : ∀ c ∈ flags, c ∈ "dgimsuy".toList) :
    ∃ c ∈ '/' :: "dgimsuy".toList, (slashed source flags).getLast? = some c := by
  have hlast : (slashed source flags).getLast? = ('/' :: flags).getLast? :=
    List.getLast?_append_of_ne_nil _ (List.cons_ne_nil _ _)
  rw [hlast]
  obtain rfl | ⟨front, c, rfl⟩ := List.eq_nil_or_concat' flags
  · exact ⟨'/', List.mem_cons_self, rfl⟩
  · refine ⟨c, List.mem_cons_of_mem _ (hflags c (by simp)), ?_⟩
    rw [← List.cons_append, List.getLast?_concat]

theorem readMatcher_slashed [Text.View] (source : List Char)
    (hflags : ∀ c ∈ flags, c ∈ "dgimsuy".toList) :
    readMatcher (slashed source flags) = .ok (slashedMatcher source flags) := by
  rw [readMatcher, slashed, pattern?_slashed source hflags]
  rfl

/-- An attribute that stands alone ends at the last bracket. -/
theorem attributeBody?_slashed (hbreak : '\n' ∉ source)
    (hflags : ∀ c ∈ flags, c ∈ "dgimsuy".toList) {name : List Char} (hname : IsName name) :
    attributeBody? ('[' :: name ++ '=' :: slashed source flags ++ [']'])
      = some (name, slashed source flags) := by
  have hcut : '[' :: name ++ '=' :: slashed source flags ++ [']']
      = '[' :: (name ++ '=' :: (slashed source flags ++ [']'])) := by
    simp
  have hquoted : quotedAttribute? (slashed source flags ++ [']']) = none := rfl
  have hfinal : dropFinalBreak (slashed source flags ++ [']']) = slashed source flags ++ [']'] := by
    rw [dropFinalBreak, List.getLast?_concat]
    exact if_neg (by decide)
  obtain ⟨c, hc, hlast⟩ := getLast?_slashed source hflags
  have hend : (slashed source flags).getLast? ≠ some '\n' := by
    rw [hlast, Ne, Option.some_inj]
    rintro rfl
    exact absurd hc (by decide)
  have hpattern :
      patternAttribute? (slashed source flags ++ [']']) = some (slashed source flags) := by
    have hparts : patternParts? (slashed source flags) = some (source, flags) :=
      patternParts?_slashed source hflags
    rw [patternAttribute?, hfinal]
    simp [hparts, hbreak, hend]
  rw [hcut, attributeBody?, takeName_append hname]
  dsimp only
  rw [hquoted, hpattern]
  rfl

theorem isArgument_slashed [Text.View] (hquotes : ∀ c ∈ source, isQuoteMark c = false)
    (hbreak : '\n' ∉ source) (hwhole : ¬ separator <:+: source)
    (hflags : ∀ c ∈ flags, c ∈ "dgimsuy".toList) :
    IsArgument (slashed source flags) (slashedMatcher source flags) := by
  constructor
  case matcher => exact readMatcher_slashed source hflags
  case body =>
    intro name hname
    exact attributeBody?_slashed hbreak hflags hname
  case whole => exact isWhole_of_unseparated (not_infix_slashed hwhole hflags) none
  case closed =>
    rw [← List.append_nil (slashed source flags), quoteAfter_unquoted]
    · rfl
    · intro c hc
      simp only [slashed_eq, List.mem_cons, List.mem_append] at hc
      obtain rfl | hc | rfl | hc := hc
      · rfl
      · exact hquotes c hc
      · rfl
      · exact (isEnding_of_mem (List.mem_cons_of_mem _ (hflags c hc))).unquoted
  case last =>
    obtain ⟨c, hc, hlast⟩ := getLast?_slashed source hflags
    have hending := isEnding_of_mem hc
    refine ⟨c, hlast, hending.visible, ?_⟩
    rintro rfl
    exact hending.unseparated (by decide)

/-! ## Attributes of a role -/

theorem isAttributeValue_slashed [Text.View] (hbracket : ']' ∉ source)
    (hflags : ∀ c ∈ flags, c ∈ "dgimsuy".toList) :
    IsAttributeValue (slashed source flags) (slashedMatcher source flags) := by
  constructor
  case found =>
    intro name rest hname
    have hflag : ']' ∉ flags := by
      intro hmem
      exact absurd (hflags ']' hmem) (by decide)
    exact takeAttribute_bare hname (by simp [slashed]) (by simp [slashed, hbracket, hflag]) rest
  case value =>
    rw [readValue, if_neg (by simp [slashed]), slashed, pattern?_slashed source hflags]
    rfl

/-- What is found first in a text that begins with an attribute. -/
theorem readRole_bare [Text.View] {role name raw : List Char} (hrole : '[' ∉ role)
    (hname : IsName name) (hmark : raw.head? ≠ some '\x22') (hbracket : ']' ∉ raw)
    {rest : List Char} {step : Step}
    (h : readRole (role ++ ('[' :: name ++ '=' :: raw ++ ']' :: rest)) = .ok step) :
    ∃ value more, readValue raw = .ok value ∧ step = .role role (⟨name, value⟩ :: more) := by
  have hattributes : attributes (role ++ ('[' :: name ++ '=' :: raw ++ ']' :: rest))
      = (name, raw) :: attributesAfter 0 rest := by
    have hfound := attributesAfter_found (name ++ '=' :: raw ++ [']']) rest
      (by simpa using takeAttribute_bare hname hmark hbracket rest)
    rw [attributes, attributesAfter_plain hrole]
    simpa using hfound
  obtain ⟨found, hfound, hstep⟩ := Result.bind_eq_ok.mp h
  cases hstep
  rw [hattributes] at hfound
  cases Result.mapM_eq_ok.mp hfound with
  | cons hfirst hmore =>
    obtain ⟨value, hvalue, hfirst⟩ := Result.bind_eq_ok.mp hfirst
    cases hfirst
    refine ⟨value, _, hvalue, congrArg₂ Step.role ?_ rfl⟩
    exact takeWhile_role hrole (name ++ '=' :: raw ++ ']' :: rest)

theorem mem_unescapeSlashes {c : Char} (hslash : c ≠ '/') (hescape : c ≠ '\\') {s : List Char} :
    c ∈ unescapeSlashes s ↔ c ∈ s := by
  fun_induction unescapeSlashes s with
  | case1 rest ih => simp [ih, hslash, hescape]
  | case2 d rest _ ih => simp [ih]
  | case3 => rfl

theorem escapeMarks_of_not_mem {s : List Char} (h : '\x22' ∉ s) : escapeMarks s = s := by
  induction s with
  | nil => rfl
  | cons c s ih =>
    obtain ⟨hc, hs⟩ := not_or.mp (List.mem_cons.not.mp h)
    rw [escapeMarks_cons (Ne.symm hc), ih hs]

/-- A value that begins with a slash is a pattern without new marks and brackets, or a text. -/
theorem readValue_slash [Text.View] {raw : List Char} {value : Value} (hhead : raw.head? = some '/')
    (hquotes : '\x22' ∉ raw) (hbracket : ']' ∉ raw) (h : readValue raw = .ok value) :
    value = .matching (.text raw false)
      ∨ ∃ source ignoreCase, value = .matching (.pattern source ignoreCase)
        ∧ '\x22' ∉ source ∧ ']' ∉ source := by
  obtain ⟨rest, rfl⟩ := List.head?_eq_some_iff.mp hhead
  have htrue : '/' :: rest ≠ "true".toList :=
    fun heq => absurd (List.cons_eq_cons.mp heq).1 (by decide)
  have hfalse : '/' :: rest ≠ "false".toList :=
    fun heq => absurd (List.cons_eq_cons.mp heq).1 (by decide)
  have hnumeric : looksNumeric ('/' :: rest) = false := by
    have hdigit : Text.isDigit '/' = false := by decide
    simp [looksNumeric, hdigit]
  rw [readValue, if_neg (by simp)] at h
  cases hpattern : pattern? ('/' :: rest) with
  | none =>
    rw [hpattern] at h
    dsimp only at h
    rw [if_neg htrue, if_neg hfalse, hnumeric, if_neg Bool.false_ne_true] at h
    exact .inl (Except.ok.inj h).symm
  | some m =>
    rw [hpattern] at h
    obtain ⟨⟨body, flags⟩, hparts, rfl⟩ := Option.map_eq_some_iff.mp hpattern
    have hsubset := subset_of_patternParts? hparts
    have hmark : '\x22' ∉ unescapeSlashes body := by
      rw [mem_unescapeSlashes (by decide) (by decide)]
      exact fun hmem => hquotes (hsubset hmem)
    have hclosing : ']' ∉ unescapeSlashes body := by
      rw [mem_unescapeSlashes (by decide) (by decide)]
      exact fun hmem => hbracket (hsubset hmem)
    refine .inr ⟨_, _, (Except.ok.inj h).symm, ?_⟩
    rw [escapeMarks_of_not_mem hmark]
    exact ⟨hmark, hclosing⟩

/-- A role's first argument stands right behind what stands in front of it. -/
theorem exists_write_role (name : List Char) (m : Matcher) (more : List Attribute) :
    ∃ rest, (Step.role name (⟨"name".toList, .matching m⟩ :: more)).write
      = (Engine.role name).front ++ (m.write ++ rest) := by
  have hfront : "get_by_role(".toList = "get_by_role".toList ++ ['('] := by decide
  have hcomma : ", name=".toList = ',' :: ' ' :: ("name".toList ++ ['=']) := by decide
  rw [Step.write_role, List.flatMap_cons, Engine.write_nameAttribute, List.cons_append, call,
    commaSeparated_cons_cons, commaSeparated_cons, Engine.front_role, hfront, hcomma]
  generalize "name".toList = word
  generalize "get_by_role".toList = method
  generalize behind _ = others
  exact ⟨others ++ [')'], by simp⟩

/-- The literal of a text is not the expression for a pattern. -/
theorem quote_append_ne_compiled (text body flags rest rest' : List Char) :
    quote text ++ rest ≠ compiled body flags ++ rest' := by
  have hfirst : "re.compile(r\x22".toList = 'r' :: "e.compile(r\x22".toList := by decide
  have hhead : (compiled body flags ++ rest').head? = some 'r' := by
    rw [compiled_eq, hfirst]
    rfl
  intro heq
  rw [← heq, quote_append, List.head?_cons] at hhead
  exact absurd hhead (by decide)

/-- A pattern without a bracket is not written as one with a bracket. -/
theorem write_append_ne_compiled {source body flags rest rest' : List Char} {ignoreCase : Bool}
    (hmark : '\x22' ∉ source) (hclosing : ']' ∉ source) (hquotes : '\x22' ∉ body)
    (hbracket : ']' ∈ body) :
    (Matcher.pattern source ignoreCase).write ++ rest ≠ compiled body flags ++ rest' := by
  intro heq
  rw [Matcher.write_pattern, compiled_eq] at heq
  generalize "re.compile(r\x22".toList = front at heq
  generalize (if ignoreCase then ", re.IGNORECASE" else "").toList = suffix at heq
  simp only [List.append_assoc, List.cons_append, List.append_cancel_left_eq] at heq
  rw [(cut_injective hmark hquotes heq).1] at hclosing
  exact hclosing hbracket

/-! ## The expressions -/

/-- The attribute of a role ends inside a pattern with a bracket, and its argument is another. -/
theorem readPart_role_ne [Text.View] {name : List Char} (hname : (Engine.role name).IsNamed)
    (hquotes : ∀ c ∈ source, isQuoteMark c = false) (hbracket : ']' ∈ source) {step : Step}
    (h : readPart ((Engine.role name).selector (slashed source flags)) = .ok step) :
    step.write ≠ (Engine.role name).expression (slashedMatcher source flags).write false := by
  have hmark : '\x22' ∉ source := by
    intro hmem
    exact absurd (hquotes '\x22' hmem) (by decide)
  have hunescaped : '\x22' ∉ unescapeSlashes source := by
    rwa [mem_unescapeSlashes (by decide) (by decide)]
  obtain ⟨before, after, rfl, hbefore⟩ := List.eq_append_cons_of_mem hbracket
  have hcut : '[' :: "name".toList ++ '=' :: slashed (before ++ ']' :: after) flags ++ [']']
      = '[' :: "name".toList ++ '=' :: ('/' :: before)
        ++ ']' :: (after ++ '/' :: flags ++ [']']) := by
    simp [slashed]
  rw [Engine.readPart_selector_role, hcut] at h
  have hraw : ']' ∉ '/' :: before := by simp [hbefore]
  obtain ⟨value, more, hvalue, rfl⟩ :=
    readRole_bare (Engine.not_mem_of_isNamed hname) Engine.isName_name (by simp) hraw h
  have hrawMark : '\x22' ∉ '/' :: before := by
    intro hmem
    apply hmark
    simpa using Or.inl hmem
  have hbody : '\x22' ∉ escapeMarks (unescapeSlashes (before ++ ']' :: after)) := by
    rwa [escapeMarks_of_not_mem hunescaped]
  have hclosing : ']' ∈ escapeMarks (unescapeSlashes (before ++ ']' :: after)) := by
    rwa [escapeMarks_of_not_mem hunescaped, mem_unescapeSlashes (by decide) (by decide)]
  rw [write_slashedMatcher, Engine.expression, List.append_assoc, List.append_assoc]
  obtain rfl | ⟨cut, ignoreCase, rfl, hcut, hcutBracket⟩ :=
    readValue_slash rfl hrawMark hraw hvalue
  · obtain ⟨rest, hrest⟩ := exists_write_role name (.text ('/' :: before) false) more
    rw [hrest, Ne, List.append_cancel_left_eq]
    exact quote_append_ne_compiled _ _ _ _ _
  · obtain ⟨rest, hrest⟩ := exists_write_role name (.pattern cut ignoreCase) more
    rw [hrest, Ne, List.append_cancel_left_eq]
    exact write_append_ne_compiled hcut hcutBracket hbody hclosing

end

theorem selector_text (v : List Char) :
    (Engine.find .text).selector v = "internal:text=".toList ++ v :=
  List.append_nil _

theorem expression_false (e : Engine) (a : List Char) :
    e.expression a false = e.front ++ a ++ [')'] := by
  rw [Engine.expression, Bool.false_and]
  exact congrArg (· ++ [')']) (List.append_nil (e.front ++ a))

/-- Every engine writes the argument that the search by text writes for a pattern; the search
by role does so just if the pattern has no closing bracket. -/
theorem ofSelectorIn_slashed [Text.View] {source flags : List Char}
    (hquotes : ∀ c ∈ source, isQuoteMark c = false) (hbreak : '\n' ∉ source)
    (hwhole : ¬ separator <:+: source) (hflags : ∀ c ∈ flags, c ∈ "dgimsuy".toList) :
    ∃ body,
      ofSelectorIn language ("internal:text=".toList ++ slashed source flags)
          = .ok ("get_by_text(".toList ++ compiled body flags ++ [')'])
        ∧ ∀ e : Engine, e.IsNamed →
          (ofSelectorIn language (e.selector (slashed source flags))
              = .ok (e.expression (compiled body flags) false)
            ↔ ∀ name, e = .role name → ']' ∉ source) := by
  have hargument := isArgument_slashed hquotes hbreak hwhole hflags
  have hwrite (e : Engine) (he : e.IsNamed)
      (hread : readPart (e.selector (slashed source flags))
        = .ok (e.step (slashedMatcher source flags))) :
      ofSelectorIn language (e.selector (slashed source flags))
        = .ok (e.expression (slashedMatcher source flags).write false) := by
    rw [(Engine.isPart_selector he hargument).ofSelectorIn_eq, writePart, hread]
    exact congrArg Except.ok (e.write_step _)
  refine ⟨escapeMarks (unescapeSlashes source), ?_, ?_⟩
  · have htext := hwrite (.find .text) trivial (Engine.readPart_find .text hargument)
    rwa [write_slashedMatcher, selector_text, expression_false] at htext
  · intro e he
    rw [← write_slashedMatcher]
    constructor
    · rintro h name rfl hbracket
      rw [(Engine.isPart_selector he hargument).ofSelectorIn_eq] at h
      obtain ⟨step, hstep, hwritten⟩ := Result.map_eq_ok.mp (Result.mapError_eq_ok.mp h)
      exact readPart_role_ne he hquotes hbracket hstep hwritten
    · intro h
      cases e with
      | find finder => exact hwrite _ he (Engine.readPart_find finder hargument)
      | filter negated => exact hwrite _ he (Engine.readPart_filter negated hargument)
      | role name =>
        exact hwrite _ he (Engine.readPart_role he (isAttributeValue_slashed (h name rfl) hflags))

theorem ofSelectorIn_slashed_class :
    ∃ body,
      ofSelectorIn language "internal:text=/[a-z]+\\/x/i".toList
          = .ok ("get_by_text(".toList ++ compiled body ['i'] ++ [')'])
        ∧ ofSelectorIn language "internal:attr=[title=/[a-z]+\\/x/i]".toList
          = .ok ("get_by_title(".toList ++ compiled body ['i'] ++ [')'])
        ∧ ofSelectorIn language "internal:role=link[name=/[a-z]+\\/x/i]".toList
          ≠ .ok ("get_by_role(\x22link\x22, name=".toList ++ compiled body ['i'] ++ [')']) := by
  have hflags : ∀ c ∈ ['i'], c ∈ "dgimsuy".toList := by
    intro c hc
    rw [List.mem_singleton.mp hc]
    decide
  have hquotes : ∀ c ∈ "[a-z]+\\/x".toList, isQuoteMark c = false := by
    have hall : ("[a-z]+\\/x".toList.all fun c => !isQuoteMark c) = true := by decide
    intro c hc
    simpa using List.all_eq_true.mp hall c hc
  have hnamed : (Engine.role "link".toList).IsNamed := List.all_eq_true.mp (by decide)
  obtain ⟨body, htext, hengines⟩ :=
    ofSelectorIn_slashed hquotes (by decide) (by decide) hflags
  have htitle := (hengines (.find .title) trivial).mpr nofun
  have hrole := mt (hengines (.role "link".toList) hnamed).mp fun h => h _ rfl (by decide)
  rw [expression_false] at htitle hrole
  have htitleSelector : (Engine.find .title).selector (slashed "[a-z]+\\/x".toList ['i'])
      = "internal:attr=[title=/[a-z]+\\/x/i]".toList := by
    decide
  have hroleSelector : (Engine.role "link".toList).selector (slashed "[a-z]+\\/x".toList ['i'])
      = "internal:role=link[name=/[a-z]+\\/x/i]".toList := by
    decide
  have hfront : (Engine.role "link".toList).front = "get_by_role(\x22link\x22, name=".toList := by
    decide
  rw [htitleSelector] at htitle
  rw [hroleSelector, hfront] at hrole
  exact ⟨body, htext, htitle, hrole⟩

/-- The attribute of a role ends in the character class, and what is left of the pattern is a
text; the other engines read the whole pattern. -/
theorem ofSelectorIn_cutPattern :
    ofSelectorIn language "internal:text=/[a-z]/".toList
        = .ok "get_by_text(re.compile(r\x22[a-z]\x22))".toList
      ∧ ofSelectorIn language "internal:role=link[name=/[a-z]/]".toList
        = .ok "get_by_role(\x22link\x22, name=\x22/[a-z\x22)".toList := by
  constructor <;> decide +kernel

end Retrace.Locator
