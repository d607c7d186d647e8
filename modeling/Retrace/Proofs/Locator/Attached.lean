import Retrace.Proofs.Locator.Code
import Retrace.Proofs.Locator.OneLine
import Retrace.Proofs.Locator.Reading
import Retrace.Proofs.Script.Arguments

/-!
# Calls on locators

Every part of a selector becomes one token of its expression, and a call is put
behind them all. So the call begins with a dot just if the selector has no parts.
A choice by position is written as it was given; the texts of every other part are
inside literals, where a pattern stays up to its own first closing mark. So where
the choices are whole numbers and the patterns do not close their literals, emptying
all texts changes nothing of the code around them.
-/

namespace Retrace.Locator

open Literal Script

/-! ## Steps without their texts -/

def Matcher.emptied : Matcher → Matcher
  | text _ exact => text [] exact
  | pattern _ ignoreCase => pattern [] ignoreCase

def Value.emptied : Value → Value
  | matching m => matching m.emptied
  | flag b => flag b
  | number n => number n

def Attribute.emptied (a : Attribute) : Attribute := ⟨a.name, a.value.emptied⟩

/-- Of a step, its kind, its positions, the names, numbers and truth values of its attributes,
and how a text or a pattern is to be matched. -/
def Step.emptied : Step → Step
  | first => first
  | last => last
  | nth index => nth index
  | role _ attributes => role [] (attributes.map Attribute.emptied)
  | find finder m => find finder m.emptied
  | filter negated m => filter negated m.emptied
  | locator _ => locator []

/-- A pattern is on one line, and the mark written behind it is the first to close it. -/
def Matcher.IsClosed : Matcher → Prop
  | text _ _ => True
  | pattern source _ =>
    Text.isOneLine source = true ∧ takeRaw (source ++ ['\x22']) = some (source, [])

def Value.IsClosed : Value → Prop
  | matching m => m.IsClosed
  | flag _ => True
  | number _ => True

def Step.IsClosed : Step → Prop
  | nth index => ∃ n : Int, index = (toString n).toList
  | role _ attributes => ∀ a ∈ attributes, a.value.IsClosed
  | find _ m => m.IsClosed
  | filter _ m => m.IsClosed
  | _ => True

theorem Matcher.isExact_emptied (m : Matcher) : m.emptied.isExact = m.isExact := by
  cases m <;> rfl

/-! ## The code of a step -/

/-- The letter in front of the mark makes the literal raw, and is code. -/
theorem sameCode_raw {body body' : List Char} (h : lex .literal body = some ([], .literal))
    (h' : lex .literal body' = some ([], .literal)) :
    SameCode .apart ('r' :: ('\x22' :: body ++ ['\x22']))
      ('r' :: ('\x22' :: body' ++ ['\x22'])) := by
  have hletter : (Place.code .apart).next 'r' = some (.code .rawLetter) := by
    decide +kernel
  exact ⟨_, _, lex_cons hletter (lex_literal h (by decide)),
    lex_cons hletter (lex_literal h' (by decide))⟩

theorem sameCode_matcher {m : Matcher} (h : m.IsClosed) :
    SameCode .apart m.write m.emptied.write := by
  cases m with
  | text value exact => exact .quote _ _
  | pattern source ignoreCase =>
    have hsource : lex .literal source = some ([], .literal) :=
      lex_of_takeRaw h.2 (Text.isOneLine_iff.mp h.1)
    have hback :
        isPlain ((if ignoreCase then ", re.IGNORECASE" else "").toList ++ [')']) = true := by
      cases ignoreCase <;> decide
    have hwrite (source : List Char) : (Matcher.pattern source ignoreCase).write
        = "re.compile".toList ++ '(' :: ('r' :: ('\x22' :: source ++ ['\x22'])
          ++ ((if ignoreCase then ", re.IGNORECASE" else "").toList ++ [')'])) := by
      have hfront : "re.compile(r\x22".toList = "re.compile".toList ++ ['(', 'r', '\x22'] := by
        decide
      rw [Matcher.write_pattern, hfront]
      simp
    rw [Matcher.emptied, hwrite, hwrite]
    have hcall := (sameCode_raw hsource (lex_escape [])).append (SameCode.plain hback)
    exact (SameCode.plain (by decide) _).append (SameCode.behind (by decide +kernel) hcall)

theorem isPlain_toString (n : Int) : isPlain (toString n).toList = true := by
  apply List.all_eq_true.mpr
  intro c hc
  exact isCode_of_isNumeralChar (isNumeralChar_toString n c hc)

theorem sameCode_value {v : Value} (h : v.IsClosed) : SameCode .apart v.write v.emptied.write := by
  cases v with
  | matching m => exact sameCode_matcher h
  | flag b => cases b <;> exact SameCode.plain (by decide) _
  | number n => exact SameCode.plain (isPlain_toString n) _

theorem isPlain_name {name : List Char} (h : ∀ c ∈ name, isNameChar c = true) :
    isPlain (name.map fun c => if c = '-' then '_' else c) = true := by
  apply List.all_eq_true.mpr
  intro c hc
  obtain ⟨d, hd, rfl⟩ := List.mem_map.mp hc
  split
  · decide
  · exact isCode_of_kind (by decide +kernel) (by decide +kernel) (by decide +kernel) (h d hd)

theorem sameCode_exact (exact : Bool) :
    List.Forall₂ (SameCode .apart) (if exact then [exactArgument] else [])
      (if exact then [exactArgument] else []) := by
  cases exact with
  | false => exact .nil
  | true => exact .cons (SameCode.plain (by decide) _) .nil

theorem sameCode_attribute {a : Attribute} (hname : ∀ c ∈ a.name, isNameChar c = true)
    (h : a.value.IsClosed) : List.Forall₂ (SameCode .apart) a.write a.emptied.write := by
  obtain ⟨name, value⟩ := a
  rw [Attribute.emptied, Attribute.write, Attribute.write]
  have hargument := (SameCode.plain (isPlain_name hname) .apart).append
    (SameCode.behind (c := '=') (by decide +kernel) (sameCode_value h))
  cases value with
  | matching m =>
    refine .cons hargument ?_
    simpa only [Value.emptied, Matcher.isExact_emptied] using sameCode_exact m.isExact
  | flag b => exact .cons hargument .nil
  | number n => exact .cons hargument .nil

theorem sameCode_attributes {attributes : List Attribute}
    (hnames : ∀ a ∈ attributes, ∀ c ∈ a.name, isNameChar c = true)
    (h : ∀ a ∈ attributes, a.value.IsClosed) :
    List.Forall₂ (SameCode .apart) (attributes.flatMap Attribute.write)
      ((attributes.map Attribute.emptied).flatMap Attribute.write) := by
  induction attributes with
  | nil => exact .nil
  | cons a attributes ih =>
    obtain ⟨hname, hnames⟩ := List.forall_mem_cons.mp hnames
    obtain ⟨ha, h⟩ := List.forall_mem_cons.mp h
    exact List.rel_append (sameCode_attribute hname ha) (ih hnames h)

theorem sameCode_call {method : String} (hmethod : isPlain method.toList = true)
    {arguments arguments' : List (List Char)}
    (h : List.Forall₂ (SameCode .apart) arguments arguments') :
    SameCode .apart (call method arguments) (call method arguments') := by
  have harguments := SameCode.intercalate [','] (c := ' ') (by decide)
    (by decide +kernel) h
  have hlist := harguments.append (SameCode.plain (s := [')']) (by decide))
  simpa [call, commaSeparated] using
    (SameCode.plain hmethod .apart).append (SameCode.behind (c := '(') (by decide +kernel) hlist)

/-- The names of attributes are names. -/
def Step.IsNamed : Step → Prop
  | role _ attributes => ∀ a ∈ attributes, ∀ c ∈ a.name, isNameChar c = true
  | _ => True

theorem sameCode_step {step : Step} (hnames : step.IsNamed) (h : step.IsClosed) :
    SameCode .apart step.write step.emptied.write := by
  cases step with
  | first => exact SameCode.plain (by decide) _
  | last => exact SameCode.plain (by decide) _
  | nth index =>
    obtain ⟨n, rfl⟩ := h
    rw [Step.emptied, Step.write]
    exact sameCode_call (by decide) (.cons (SameCode.plain (isPlain_toString n) _) .nil)
  | role name attributes =>
    exact sameCode_call (by decide) (.cons (.quote _ _) (sameCode_attributes hnames h))
  | find finder m =>
    have hmethod : isPlain finder.method.toList = true := by cases finder <;> decide
    rw [Step.emptied, Step.write_find, Step.write_find, Matcher.isExact_emptied]
    exact sameCode_call hmethod (.cons (sameCode_matcher h) (sameCode_exact _))
  | filter negated m =>
    have hkeyword : (if negated then "has_not_text=" else "has_text=").toList
        = (if negated then "has_not_text" else "has_text").toList ++ ['='] := by
      cases negated <;> decide
    have hplain : isPlain (if negated then "has_not_text" else "has_text").toList = true := by
      cases negated <;> decide
    rw [Step.emptied, Step.write_filter, Step.write_filter, hkeyword, List.append_assoc,
      List.append_assoc]
    refine sameCode_call (by decide) (.cons ?_ .nil)
    have hmatcher := SameCode.behind (c := '=') (by decide +kernel) (sameCode_matcher h)
    exact (SameCode.plain hplain _).append hmatcher
  | locator selector => exact sameCode_call (by decide) (.cons (.quote _ _) .nil)

/-! ## Names of attributes -/

theorem isNameChar_of_mem_attributesAfter {skip : Nat} {s : List Char} :
    ∀ found ∈ attributesAfter skip s, ∀ c ∈ found.1, isNameChar c = true := by
  fun_induction attributesAfter skip s with
  | case1 => exact fun _ h => absurd h List.not_mem_nil
  | case2 skip c rest ih => exact ih
  | case3 c rest found after htake ih =>
    obtain ⟨-, -, hname, -⟩ := takeAttribute_eq_some htake
    exact List.forall_mem_cons.mpr ⟨hname.2, ih⟩
  | case4 c rest _ ih => exact ih

theorem isNamed_of_readPart [Text.View] {part : List Char} {step : Step}
    (h : readPart part = .ok step) : step.IsNamed := by
  rw [readPart_eq_run] at h
  cases hreading : Reading.of part with
  | position index =>
    rw [hreading] at h
    cases h
    unfold readNth
    split_ifs <;> trivial
  | role body =>
    rw [hreading] at h
    obtain ⟨found, hfound, h⟩ := Result.bind_eq_ok.mp h
    cases h
    intro a ha
    obtain ⟨raw, hraw, hread⟩ := Result.exists_of_mapM_eq_ok hfound ha
    obtain ⟨value, -, hread⟩ := Result.bind_eq_ok.mp hread
    cases hread
    exact isNameChar_of_mem_attributesAfter raw hraw
  | search finder value =>
    rw [hreading] at h
    obtain ⟨m, -, rfl⟩ := Result.map_eq_ok.mp h
    trivial
  | filter negated value =>
    rw [hreading] at h
    obtain ⟨m, -, rfl⟩ := Result.map_eq_ok.mp h
    trivial
  | whole =>
    rw [hreading] at h
    cases h
    trivial

/-! ## Tokens -/

theorem head?_call {method : String} (h : method.toList ≠ []) (arguments : List (List Char)) :
    (call method arguments).head? = method.toList.head? := by
  obtain ⟨c, s, hmethod⟩ := List.exists_cons_of_ne_nil h
  simp [call, hmethod]

/-- No step is empty or begins with a dot. -/
theorem head?_write (step : Step) : ∃ c, step.write.head? = some c ∧ c ≠ '.' := by
  cases step with
  | first => exact ⟨'f', by decide, by decide⟩
  | last => exact ⟨'l', by decide, by decide⟩
  | nth index => exact ⟨'n', (head?_call (by decide) _).trans (by decide), by decide⟩
  | role name attributes => exact ⟨'g', (head?_call (by decide) _).trans (by decide), by decide⟩
  | find finder m =>
    have hmethod : finder.method.toList ≠ [] ∧ finder.method.toList.head? = some 'g' := by
      cases finder <;> decide
    exact ⟨'g', (head?_call hmethod.1 _).trans hmethod.2, by decide⟩
  | filter negated m => exact ⟨'f', (head?_call (by decide) _).trans (by decide), by decide⟩
  | locator selector => exact ⟨'l', (head?_call (by decide) _).trans (by decide), by decide⟩

/-- The first step is the beginning of the expression. -/
theorem head?_expression (step : Step) (steps : List Step) :
    (['.'].intercalate ((step :: steps).map Step.write)).head? = step.write.head? := by
  obtain ⟨c, hc, -⟩ := head?_write step
  obtain ⟨s, hs⟩ := List.head?_eq_some_iff.mp hc
  cases steps with
  | nil => simp
  | cons next steps => simp [List.intercalate_cons_cons, hs]

theorem expression_eq_nil_iff (steps : List Step) :
    ['.'].intercalate (steps.map Step.write) = [] ↔ steps = [] := by
  cases steps with
  | nil => simp
  | cons step steps =>
    obtain ⟨c, hc, -⟩ := head?_write step
    rw [← head?_expression step steps] at hc
    refine iff_of_false ?_ (List.cons_ne_nil step steps)
    intro hnil
    rw [hnil] at hc
    cases hc

/-- What stands behind a dot after an expression begins with it only where there is none. -/
theorem head?_expression_dot (steps : List Step) (rest : List Char) :
    (['.'].intercalate (steps.map Step.write) ++ '.' :: rest).head? = some '.' ↔ steps = [] := by
  cases steps with
  | nil => simp
  | cons step steps =>
    obtain ⟨c, hc, hdot⟩ := head?_write step
    rw [← head?_expression step steps] at hc
    refine iff_of_false ?_ (List.cons_ne_nil step steps)
    rw [List.head?_append, hc]
    simpa using hdot

theorem write_onLocator [Text.View] {selector text : List Char} (h : ofSelector selector = .ok text)
    (method arguments : List Char) :
    Call.write .locator ofSelector ⟨some selector, method, arguments⟩
      = .ok (text ++ '.' :: (method ++ '(' :: arguments ++ [')'])) := by
  have hwrite : Call.write .locator ofSelector ⟨some selector, method, arguments⟩
      = ((ofSelector selector).mapError .locator >>= fun locator =>
          return locator ++ '.' :: method ++ '(' :: arguments ++ [')']) := rfl
  rw [hwrite, h]
  simp [Except.mapError]

/-- A choice of the first, of the last, or of any other element by its number. -/
def IsChoice (token : List Char) : Prop :=
  token = "first".toList ∨ token = "last".toList
    ∨ ∃ n : Int, token = call "nth" [(toString n).toList]

theorem call_nth (index : List Char) :
    call "nth" [index] = 'n' :: "th(".toList ++ index ++ [')'] := by
  have hmethod : "nth".toList = ['n', 't', 'h'] := by decide
  have hopening : "th(".toList = ['t', 'h', '('] := by decide
  simp [call, commaSeparated, hmethod, hopening]

/-- What is chosen by position is written as it was given, whatever it is. -/
theorem isChoice_readNth_iff (index : List Char) :
    IsChoice (readNth index).write ↔ ∃ n : Int, index = (toString n).toList := by
  unfold readNth
  split_ifs with hfirst hlast
  · exact iff_of_true (.inl rfl) ⟨0, hfirst⟩
  · exact iff_of_true (.inr (.inl rfl)) ⟨-1, hlast.trans (by decide)⟩
  · have hhead : (Step.nth index).write.head? = some 'n' :=
      (head?_call (by decide) _).trans (by decide)
    constructor
    · rintro (h | h | ⟨n, h⟩)
      · rw [h] at hhead
        exact absurd hhead (by decide)
      · rw [h] at hhead
        exact absurd hhead (by decide)
      · refine ⟨n, ?_⟩
        rw [Step.write, call_nth, call_nth] at h
        exact List.append_cancel_left (List.append_cancel_right h)
    · rintro ⟨n, rfl⟩
      exact .inr (.inr ⟨n, rfl⟩)

/-- A part has become a token of its own. -/
structure IsTokenOf [Text.View] (part : List Char) (step : Step) : Prop where
  read : readPart part = .ok step
  nonempty : step.write ≠ []
  undotted : step.write.head? ≠ some '.'
  choice : ∀ index, part = nthMark ++ index →
    (IsChoice step.write ↔ ∃ n : Int, index = (toString n).toList)

theorem isTokenOf_of_readPart [Text.View] {part : List Char} {step : Step}
    (h : readPart part = .ok step) : IsTokenOf part step := by
  obtain ⟨c, hc, hdot⟩ := head?_write step
  constructor
  case read => exact h
  case nonempty =>
    intro hnil
    rw [hnil] at hc
    cases hc
  case undotted => simpa [hc] using hdot
  case choice =>
    rintro index rfl
    have hmark : nthMark.isPrefixOf (nthMark ++ index) = true := by simp
    rw [readPart, if_pos hmark, List.drop_left] at h
    cases h
    exact isChoice_readNth_iff index

/-- The expression of a selector has one token for each part, and a call on it begins with a dot
just if there are no parts. A choice by position is a choice just if it is given a whole number.
Where all of them are, and the patterns stay inside their literals, the code of the expression
is that of the same steps without any text. -/
theorem ofSelectorIn_attached [Text.View] {selector text : List Char}
    (h : ofSelectorIn language selector = .ok text) :
    ∃ steps, List.Forall₂ IsTokenOf (parts selector) steps
      ∧ text = ['.'].intercalate (steps.map Step.write)
      ∧ (text = [] ↔ parts selector = [])
      ∧ (∀ method arguments, ∃ code,
          Call.write .locator ofSelector ⟨some selector, method, arguments⟩ = .ok code
            ∧ (code.head? = some '.' ↔ parts selector = []))
      ∧ ((∀ step ∈ steps, step.IsClosed) → ∃ code, code? text = some code
          ∧ code? (['.'].intercalate (steps.map fun step => step.emptied.write)) = some code) := by
  rw [ofSelectorIn_language] at h
  have hselector := Result.mapError_eq_ok.mp h
  obtain ⟨steps, hsteps, htext⟩ := Result.bind_eq_ok.mp hselector
  cases htext
  have hread := Result.mapM_eq_ok.mp hsteps
  have hparts : steps = [] ↔ parts selector = [] := by
    rw [← List.length_eq_zero_iff, ← hread.length_eq, List.length_eq_zero_iff]
  refine ⟨steps, hread.imp fun _ _ => isTokenOf_of_readPart, rfl, ?_, ?_, ?_⟩
  · rw [expression_eq_nil_iff, hparts]
  · intro method arguments
    refine ⟨_, write_onLocator hselector method arguments, ?_⟩
    rw [head?_expression_dot, hparts]
  · intro hclosed
    apply SameCode.code?_eq
    apply SameCode.intercalate [] (c := '.') rfl (by decide +kernel)
    rw [List.forall₂_map_left_iff, List.forall₂_map_right_iff, List.forall₂_same]
    intro step hstep
    obtain ⟨part, -, hpart⟩ := Result.exists_of_mapM_eq_ok hsteps hstep
    exact sameCode_step (isNamed_of_readPart hpart) (hclosed step hstep)

theorem ofSelectorIn_attached_role :
    ofSelectorIn language "internal:role=link[name=/a.b/] >> nth=-3".toList
        = .ok "get_by_role(\x22link\x22, name=re.compile(r\x22a.b\x22)).nth(-3)".toList
      ∧ ∃ steps, List.Forall₂ IsTokenOf
          (parts "internal:role=link[name=/a.b/] >> nth=-3".toList) steps
        ∧ (∀ step ∈ steps, step.IsClosed)
        ∧ ∃ code,
          code? "get_by_role(\x22link\x22, name=re.compile(r\x22a.b\x22)).nth(-3)".toList
              = some code
            ∧ code? (['.'].intercalate (steps.map fun step => step.emptied.write)) = some code := by
  have h : ofSelectorIn language "internal:role=link[name=/a.b/] >> nth=-3".toList
      = .ok "get_by_role(\x22link\x22, name=re.compile(r\x22a.b\x22)).nth(-3)".toList := by
    decide +kernel
  have hread : (parts "internal:role=link[name=/a.b/] >> nth=-3".toList).mapM readPart
      = .ok [.role "link".toList [⟨"name".toList, .matching (.pattern "a.b".toList false)⟩],
          .nth "-3".toList] := by
    decide +kernel
  obtain ⟨steps, htokens, -, -, -, hcode⟩ := ofSelectorIn_attached h
  have hclosed : ∀ step ∈ steps, step.IsClosed := by
    obtain rfl := Except.ok.inj
      ((Result.mapM_eq_ok.mpr (htokens.imp fun _ _ htoken => htoken.read)).symm.trans hread)
    simp only [List.forall_mem_cons, Step.IsClosed, Value.IsClosed, Matcher.IsClosed,
      List.not_mem_nil, false_implies, implies_true, and_true]
    exact ⟨by decide, -3, by decide⟩
  exact ⟨h, steps, htokens, hclosed, hcode hclosed⟩

/-- A selector without parts has no token, a choice by position may be any text, and a pattern
may leave its literal. -/
theorem ofSelectorIn_unattached :
    ofSelectorIn language [] = .ok []
      ∧ ofSelectorIn language "nth=1+1".toList = .ok "nth(1+1)".toList
      ∧ ofSelectorIn language "internal:text=/a\\\x22b/".toList
        = .ok "get_by_text(re.compile(r\x22a\\\\\x22b\x22))".toList
      ∧ code? "get_by_text(re.compile(r\x22a\\\\\x22b\x22))".toList = none := by
  decide +kernel

end Retrace.Locator
