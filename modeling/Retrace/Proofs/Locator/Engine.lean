import Retrace.Proofs.Locator.Part
import Retrace.Proofs.Number.Digits

/-!
# Engines and their values

An engine is given one value in a selector and writes one argument for it. The
selector is a part of its own if the value leaves no quote open and holds no
separator outside quotes. The engines differ in what stands around the value
and the argument, and in how the value is cut out; what the value means is the
same for all of them.
-/

namespace Retrace.Locator

open Literal

inductive Engine where
  | find (finder : Finder)
  | filter (negated : Bool)
  | role (name : List Char)

/-- The demand for the exact text, behind another argument. -/
def exactly (exact : Bool) : List Char := if exact then ", exact=True".toList else []

namespace Engine

/-- What stands in front of the value in a selector. -/
def opening : Engine → List Char
  | find .text => "internal:text=".toList
  | find .label => "internal:label=".toList
  | find .placeholder => "internal:attr=[placeholder=".toList
  | find .altText => "internal:attr=[alt=".toList
  | find .title => "internal:attr=[title=".toList
  | find .testId => "internal:testid=[data-testid=".toList
  | filter false => "internal:has-text=".toList
  | filter true => "internal:has-not-text=".toList
  | role name => "internal:role=".toList ++ name ++ "[name=".toList

/-- What stands behind it. -/
def closing : Engine → List Char
  | find .text => []
  | find .label => []
  | filter _ => []
  | _ => [']']

theorem closing_role (name : List Char) : (role name).closing = [']'] := rfl

theorem opening_role (name : List Char) :
    (role name).opening = "internal:role=".toList ++ name ++ "[name=".toList := rfl

/-- A selector that gives a value to an engine. -/
def selector (e : Engine) (v : List Char) : List Char := e.opening ++ v ++ e.closing

/-- What stands in front of the argument in an expression. -/
def front : Engine → List Char
  | find .text => "get_by_text(".toList
  | find .label => "get_by_label(".toList
  | find .placeholder => "get_by_placeholder(".toList
  | find .altText => "get_by_alt_text(".toList
  | find .title => "get_by_title(".toList
  | find .testId => "get_by_test_id(".toList
  | filter false => "filter(has_text=".toList
  | filter true => "filter(has_not_text=".toList
  | role name => "get_by_role(".toList ++ quote name ++ ", name=".toList

theorem front_role (name : List Char) :
    (role name).front = "get_by_role(".toList ++ quote name ++ ", name=".toList := rfl

/-- Filters and test ids never ask for the exact text. -/
def takesExact : Engine → Bool
  | find .testId => false
  | filter _ => false
  | _ => true

theorem takesExact_role (name : List Char) : (role name).takesExact = true := rfl

/-- The expression for an argument. -/
def expression (e : Engine) (a : List Char) (exact : Bool) : List Char :=
  e.front ++ a ++ exactly (exact && e.takesExact) ++ [')']

/-- The step for a matcher. -/
def step : Engine → Matcher → Step
  | find finder, m => .find finder m
  | filter negated, m => .filter negated m
  | role name, m => .role name [⟨"name".toList, .matching m⟩]

end Engine

/-! ## Writing -/

theorem commaSeparated_cons_cons (a b : List Char) (rest : List (List Char)) :
    commaSeparated (a :: b :: rest) = a ++ ',' :: ' ' :: commaSeparated (b :: rest) := by
  simp [commaSeparated, List.intercalate_cons_cons]

theorem commaSeparated_exact (a : List Char) (exact : Bool) :
    commaSeparated (a :: if exact then [exactArgument] else []) = a ++ exactly exact := by
  cases exact with
  | false => simp [commaSeparated, exactly]
  | true =>
    have htext : ", exact=True".toList = ',' :: ' ' :: exactArgument := by decide
    rw [exactly, if_pos rfl, if_pos rfl, commaSeparated_cons_cons, htext]
    simp [commaSeparated]

namespace Engine

theorem write_find (finder : Finder) (m : Matcher) :
    (Step.find finder m).write = (find finder).expression m.write m.isExact := by
  have hfront : finder.method.toList ++ ['('] = (find finder).front := by
    cases finder <;> decide
  have hexact : (finder != .testId) = (find finder).takesExact := by
    cases finder <;> decide
  rw [Step.write_find, call, commaSeparated_exact, hexact, expression, ← hfront]
  simp

theorem write_filter (negated : Bool) (m : Matcher) :
    (Step.filter negated m).write = (filter negated).expression m.write m.isExact := by
  have hfront : "filter".toList ++ '(' :: (if negated then "has_not_text=" else "has_text=").toList
      = (filter negated).front := by
    cases negated <;> decide
  rw [Step.write_filter, call, expression, ← hfront, takesExact, Bool.and_false, exactly,
    if_neg Bool.false_ne_true]
  simp [commaSeparated]

theorem write_nameAttribute (m : Matcher) :
    Attribute.write ⟨"name".toList, .matching m⟩
      = ("name".toList ++ '=' :: m.write) :: if m.isExact then [exactArgument] else [] := by
  have hname : ("name".toList.map fun c => if c = '-' then '_' else c) = "name".toList := by
    decide
  rw [Attribute.write, hname, Value.write]

theorem write_role (name : List Char) (m : Matcher) :
    ((role name).step m).write = (role name).expression m.write m.isExact := by
  have hfront : "get_by_role".toList ++ ['('] = "get_by_role(".toList := by decide
  have hcomma : ", name=".toList = ',' :: ' ' :: ("name".toList ++ ['=']) := by decide
  rw [step, Step.write_role, List.flatMap_singleton, write_nameAttribute, call,
    commaSeparated_cons_cons, commaSeparated_exact, expression, front_role, takesExact_role,
    Bool.and_true, ← hfront, hcomma]
  generalize "name".toList = word
  generalize "get_by_role".toList = method
  simp

theorem write_step (e : Engine) (m : Matcher) :
    (e.step m).write = e.expression m.write m.isExact := by
  cases e with
  | find finder => exact write_find finder m
  | filter negated => exact write_filter negated m
  | role name => exact write_role name m

end Engine

/-! ## Cutting out values -/

/-- A name in front of an equals sign. -/
def IsName (name : List Char) : Prop := name ≠ [] ∧ ∀ c ∈ name, isNameChar c = true

theorem takeName_append {name : List Char} (h : IsName name) (rest : List Char) :
    takeName (name ++ '=' :: rest) = some (name, rest) := by
  have hequals : isNameChar '=' = false := by decide +kernel
  have hstop : ∀ c ∈ ('=' :: rest).head?, isNameChar c = false := by simpa using hequals
  obtain ⟨htake, hdrop⟩ := Numeral.span_append h.2 hstop
  obtain ⟨c, name, rfl⟩ := List.exists_cons_of_ne_nil h.1
  rw [takeName, htake, hdrop]
  rfl

/-- What is taken as a name is one, and an equals sign stands behind it. -/
theorem takeName_eq_some {s name rest : List Char} (h : takeName s = some (name, rest)) :
    s = name ++ '=' :: rest ∧ IsName name := by
  unfold takeName at h
  dsimp only at h
  split at h
  · next hname hdrop =>
    cases h
    refine ⟨?_, ?_, fun c hc => List.mem_takeWhile_imp hc⟩
    · rw [← hdrop, List.takeWhile_append_dropWhile]
    · rw [hname]
      exact List.cons_ne_nil _ _
  · cases h

/-- An attribute has a quoted value or a bare one. -/
theorem takeAttribute_eq_some {s rest : List Char} {found : List Char × List Char}
    (h : takeAttribute s = some (found, rest)) :
    ∃ after, s = '[' :: found.1 ++ '=' :: after ∧ IsName found.1
      ∧ (takeQuotedValue after = some (found.2, rest)
        ∨ takeBareValue after = some (found.2, rest)) := by
  unfold takeAttribute at h
  split at h
  · split at h
    · next name after hname =>
      obtain ⟨rfl, hnamed⟩ := takeName_eq_some hname
      obtain ⟨⟨value, rest'⟩, hvalue, h⟩ := Option.map_eq_some_iff.mp h
      cases h
      refine ⟨after, rfl, hnamed, ?_⟩
      cases hquoted : takeQuotedValue after with
      | some p =>
        rw [hquoted] at hvalue
        exact .inl hvalue
      | none =>
        rw [hquoted] at hvalue
        exact .inr hvalue
    · cases h
  · cases h

/-- A body that is one attribute has a quoted value or a pattern. -/
theorem attributeBody?_eq_some {s name value : List Char}
    (h : attributeBody? s = some (name, value)) :
    ∃ after, s = '[' :: name ++ '=' :: after ∧ IsName name
      ∧ (quotedAttribute? after = some value ∨ patternAttribute? after = some value) := by
  unfold attributeBody? at h
  split at h
  · split at h
    · next name' after hname =>
      obtain ⟨rfl, hnamed⟩ := takeName_eq_some hname
      obtain ⟨value', hvalue, h⟩ := Option.map_eq_some_iff.mp h
      cases h
      refine ⟨after, rfl, hnamed, ?_⟩
      cases hquoted : quotedAttribute? after with
      | some quoted =>
        rw [hquoted] at hvalue
        exact .inl hvalue
      | none =>
        rw [hquoted] at hvalue
        exact .inr hvalue
    · cases h
  · cases h

/-- A value that no mark opens ends at the next closing bracket. -/
theorem takeAttribute_bare {name raw : List Char} (hname : IsName name)
    (hmark : raw.head? ≠ some '\x22') (hbracket : ']' ∉ raw) (rest : List Char) :
    takeAttribute ('[' :: name ++ '=' :: raw ++ ']' :: rest) = some ((name, raw), rest) := by
  have hcut : '[' :: name ++ '=' :: raw ++ ']' :: rest
      = '[' :: (name ++ '=' :: (raw ++ ']' :: rest)) := by
    simp
  have hquoted : takeQuotedValue (raw ++ ']' :: rest) = none := by
    cases raw with
    | nil => rfl
    | cons c raw =>
      rw [List.cons_append, takeQuotedValue]
      intro _ heq
      apply hmark
      rw [List.head?_cons, (List.cons_eq_cons.mp heq).1]
  have hbare : ∀ c ∈ raw, (c != ']') = true := by
    intro c hc
    rw [bne_iff_ne]
    rintro rfl
    exact hbracket hc
  have hstop : ∀ c ∈ (']' :: rest).head?, (c != ']') = false := by simp
  obtain ⟨htake, hdrop⟩ := Numeral.span_append hbare hstop
  rw [hcut, takeAttribute, takeName_append hname]
  dsimp only
  rw [hquoted, takeBareValue, hdrop, htake]
  rfl

/-- A value that engines read as a matcher, as a whole body or as the only attribute in it. -/
structure IsArgument [Text.View] (v : List Char) (m : Matcher) : Prop where
  matcher : readMatcher v = .ok m
  body : ∀ name, IsName name → attributeBody? ('[' :: name ++ '=' :: v ++ [']']) = some (name, v)
  whole : IsWhole none v
  closed : quoteAfter none v = none
  last : ∃ c, v.getLast? = some c ∧ Text.isBlank c = false ∧ c ≠ '>'

/-- A value that is read as a matcher in one of many attributes. -/
structure IsAttributeValue [Text.View] (v : List Char) (m : Matcher) : Prop where
  found : ∀ name rest, IsName name →
    takeAttribute ('[' :: name ++ '=' :: v ++ ']' :: rest) = some ((name, v), rest)
  value : readValue v = .ok (.matching m)

theorem attributesAfter_length (s rest : List Char) :
    attributesAfter s.length (s ++ rest) = attributesAfter 0 rest := by
  induction s with
  | nil => rfl
  | cons c s ih => rwa [List.length_cons, List.cons_append, attributesAfter]

/-- Nothing begins an attribute but an opening bracket. -/
theorem attributesAfter_plain {s : List Char} (h : '[' ∉ s) (rest : List Char) :
    attributesAfter 0 (s ++ rest) = attributesAfter 0 rest := by
  induction s with
  | nil => rfl
  | cons c s ih =>
    obtain ⟨hc, hs⟩ := not_or.mp (List.mem_cons.not.mp h)
    have hnone : takeAttribute (c :: (s ++ rest)) = none := by
      rw [takeAttribute]
      intro _ heq
      exact hc (List.cons_eq_cons.mp heq).1.symm
    rw [List.cons_append, attributesAfter, hnone]
    exact ih hs

/-- Behind an attribute the search goes on where it ends. -/
theorem attributesAfter_found {c : Char} {found : List Char × List Char} (s rest : List Char)
    (h : takeAttribute (c :: (s ++ rest)) = some (found, rest)) :
    attributesAfter 0 (c :: (s ++ rest)) = found :: attributesAfter 0 rest := by
  rw [attributesAfter, h]
  dsimp only
  rw [List.length_append, Nat.add_sub_cancel, attributesAfter_length]

/-! ## Reading -/

theorem splitEngine_append {engine : List Char} (h : '=' ∉ engine) (body : List Char) :
    splitEngine (engine ++ '=' :: body) = (engine, body) := by
  have hall : ∀ c ∈ engine, (c != '=') = true := by
    intro c hc
    rw [bne_iff_ne]
    rintro rfl
    exact h hc
  have hstop : ∀ c ∈ ('=' :: body).head?, (c != '=') = false := by simp
  obtain ⟨htake, hdrop⟩ := Numeral.span_append hall hstop
  rw [splitEngine, htake, hdrop]
  rfl

/-- The beginning of a part that names an engine. -/
structure IsFront (front : String) (engine : String) : Prop where
  equals : front.toList = engine.toList ++ ['=']
  single : '=' ∉ engine.toList
  first : front.toList.head? = some 'i'

theorem IsFront.readPart_eq [Text.View] {front engine : String} (h : IsFront front engine)
    (body : List Char) :
    readPart (front.toList ++ body) = readEngine (front.toList ++ body) body engine := by
  have hnth : nthMark.isPrefixOf (front.toList ++ body) = false := by
    obtain ⟨rest, hrest⟩ := List.head?_eq_some_iff.mp h.first
    have hmark : nthMark = 'n' :: "th=".toList := by decide
    rw [hrest, hmark]
    rfl
  have hsplit : splitEngine (front.toList ++ body) = (engine.toList, body) := by
    rw [h.equals, List.append_assoc]
    exact splitEngine_append h.single body
  rw [readPart, hnth, hsplit, if_neg Bool.false_ne_true]
  dsimp only
  rw [String.ofList_toList]

theorem readFind_eq [Text.View] {v : List Char} {m : Matcher} (h : readMatcher v = .ok m)
    (finder : Finder) : readFind finder v = .ok (.find finder m) := by
  rw [readFind, h]
  rfl

theorem readFilter_eq [Text.View] {v : List Char} {m : Matcher}
    (h : readMatcher v = .ok m) (negated : Bool) :
    Step.filter negated <$> (readMatcher v).mapError ValueFault.json = .ok (.filter negated m) := by
  rw [h]
  rfl

/-- The attributes that have a search of their own stand alone in brackets. -/
theorem readEngine_bracketed [Text.View] {engine : String}
    (hengine : engine = "internal:testid" ∨ engine = "internal:attr") {name : List Char}
    {finder : Finder} (hname : IsName name) (hfinder : Finder.ofAttribute? name = some finder)
    {v : List Char} {m : Matcher} (h : IsArgument v m) (part : List Char) :
    readEngine part ('[' :: name ++ '=' :: v ++ [']']) engine = .ok (.find finder m) := by
  have hread : readEngine part ('[' :: name ++ '=' :: v ++ [']']) "internal:attr"
      = .ok (.find finder m) := by
    simp only [readEngine, h.body name hname, hfinder]
    exact readFind_eq h.matcher finder
  obtain rfl | rfl := hengine
  · exact hread
  · exact hread

theorem takeWhile_role {role : List Char} (hrole : '[' ∉ role) (rest : List Char) :
    (role ++ '[' :: rest).takeWhile (· != '[') = role := by
  have hall : ∀ c ∈ role, (c != '[') = true := by
    intro c hc
    rw [bne_iff_ne]
    rintro rfl
    exact hrole hc
  rw [List.takeWhile_append_of_pos hall]
  simp

/-- A role is followed by its attributes; here by one. -/
theorem readRole_eq [Text.View] {role : List Char} (hrole : '[' ∉ role) {name : List Char}
    (hname : IsName name) {v : List Char} {m : Matcher} (h : IsAttributeValue v m) :
    readRole (role ++ ('[' :: name ++ '=' :: v ++ [']']))
      = .ok (.role role [⟨name, .matching m⟩]) := by
  have hattributes : attributes (role ++ ('[' :: name ++ '=' :: v ++ [']'])) = [(name, v)] := by
    have hfound := attributesAfter_found (name ++ '=' :: v ++ [']']) []
      (by simpa using h.found name [] hname)
    rw [attributes, attributesAfter_plain hrole]
    simpa [attributesAfter] using hfound
  have hname : (role ++ ('[' :: name ++ '=' :: v ++ [']'])).takeWhile (· != '[') = role :=
    takeWhile_role hrole _
  rw [readRole, hattributes, hname, List.mapM_cons, List.mapM_nil, readAttribute, h.value]
  rfl

/-! ## Engines -/

namespace Engine

/-- A role has a word as its name. -/
def IsNamed : Engine → Prop
  | role name => ∀ c ∈ name, Text.isWord c = true
  | _ => True

theorem ne_of_isWord {c d : Char} (hc : Text.isWord c = true) (hd : Text.isWord d = false) :
    c ≠ d := by
  rintro rfl
  rw [hc] at hd
  cases hd

theorem isFrame_of_isWord {name : List Char} (h : ∀ c ∈ name, Text.isWord c = true) :
    IsFrame name := by
  intro c hc
  have hword := h c hc
  have happostrophe : c ≠ '\'' := ne_of_isWord hword (by decide +kernel)
  have hquotation : c ≠ '\x22' := ne_of_isWord hword (by decide +kernel)
  refine ⟨?_, ne_of_isWord hword (by decide +kernel), ne_of_isWord hword (by decide +kernel)⟩
  simp [isQuoteMark, happostrophe, hquotation]

section

variable {v : List Char} {m : Matcher}

theorem isFrame_opening {e : Engine} (he : e.IsNamed) : IsFrame e.opening := by
  cases e with
  | find finder => cases finder <;> exact isFrame_iff.mpr (by decide)
  | filter negated => cases negated <;> exact isFrame_iff.mpr (by decide)
  | role name =>
    have hengine : IsFrame "internal:role=".toList := isFrame_iff.mpr (by decide)
    have hattribute : IsFrame "[name=".toList := isFrame_iff.mpr (by decide)
    rw [opening_role]
    exact (hengine.append (isFrame_of_isWord he)).append hattribute

theorem head?_opening (e : Engine) : e.opening.head? = some 'i' := by
  cases e with
  | find finder => cases finder <;> decide
  | filter negated => cases negated <;> decide
  | role name =>
    have hengine : "internal:role=".toList.head? = some 'i' := by decide
    rw [opening_role, List.append_assoc, List.head?_append, hengine]
    rfl

theorem closing_eq (e : Engine) : e.closing = [] ∨ e.closing = [']'] := by
  cases e with
  | find finder => cases finder <;> decide
  | filter negated => exact .inl rfl
  | role name => exact .inr rfl

theorem isPart_selector [Text.View] {e : Engine} (he : e.IsNamed) (h : IsArgument v m) :
    IsPart (e.selector v) := by
  have hframe : IsFrame e.opening := isFrame_opening he
  obtain hclosing | hclosing := closing_eq e
  · obtain ⟨c, hlast, hblank, hseam⟩ := h.last
    rw [selector, hclosing]
    apply isPart_framed hframe (head?_opening e) (by decide) h.whole h.closed
      (isFrame_iff.mpr (by decide)) _ hblank hseam
    rwa [List.append_nil]
  · rw [selector, hclosing]
    exact isPart_framed hframe (head?_opening e) (by decide) h.whole h.closed
      (isFrame_iff.mpr (by decide)) List.getLast?_concat (by decide) (by decide)

/-- The searches with brackets name their attribute in front of the value. -/
theorem readPart_bracketed [Text.View] {front engine : String} {finder : Finder} (name : String)
    (hfront : IsFront front engine)
    (hengine : engine = "internal:testid" ∨ engine = "internal:attr")
    (hopening : (find finder).opening = front.toList ++ '[' :: name.toList ++ ['='])
    (hname : (name.toList != [] && name.toList.all isNameChar) = true)
    (hfinder : Finder.ofAttribute? name.toList = some finder) (h : IsArgument v m) :
    readPart ((find finder).opening ++ v ++ [']']) = .ok (.find finder m) := by
  have hbody : (find finder).opening ++ v ++ [']']
      = front.toList ++ ('[' :: name.toList ++ '=' :: v ++ [']']) := by
    rw [hopening]
    simp
  have hname' : IsName name.toList := by
    simpa [IsName] using hname
  rw [hbody, hfront.readPart_eq]
  exact readEngine_bracketed hengine hname' hfinder h _

theorem readPart_find [Text.View] (finder : Finder) (h : IsArgument v m) :
    readPart ((find finder).selector v) = .ok (.find finder m) := by
  have hattr : IsFront "internal:attr=" "internal:attr" := by constructor <;> decide
  have htestid : IsFront "internal:testid=" "internal:testid" := by
    constructor <;> decide
  cases finder with
  | text =>
    have hfront : IsFront "internal:text=" "internal:text" := by constructor <;> decide
    rw [selector, closing, List.append_nil]
    exact (hfront.readPart_eq v).trans (readFind_eq h.matcher .text)
  | label =>
    have hfront : IsFront "internal:label=" "internal:label" := by constructor <;> decide
    rw [selector, closing, List.append_nil]
    exact (hfront.readPart_eq v).trans (readFind_eq h.matcher .label)
  | placeholder =>
    exact readPart_bracketed "placeholder" hattr (.inr rfl) (by decide)
      (by decide) (by decide) h
  | altText =>
    exact readPart_bracketed "alt" hattr (.inr rfl) (by decide) (by decide)
      (by decide) h
  | title =>
    exact readPart_bracketed "title" hattr (.inr rfl) (by decide) (by decide)
      (by decide) h
  | testId =>
    exact readPart_bracketed "data-testid" htestid (.inl rfl) (by decide)
      (by decide +kernel) (by decide +kernel) h

theorem readPart_filter [Text.View] (negated : Bool) (h : IsArgument v m) :
    readPart ((filter negated).selector v) = .ok (.filter negated m) := by
  rw [selector, closing, List.append_nil]
  cases negated with
  | false =>
    have hfront : IsFront "internal:has-text=" "internal:has-text" := by
      constructor <;> decide
    exact (hfront.readPart_eq v).trans (readFilter_eq h.matcher false)
  | true =>
    have hfront : IsFront "internal:has-not-text=" "internal:has-not-text" := by
      constructor <;> decide
    exact (hfront.readPart_eq v).trans (readFilter_eq h.matcher true)

theorem isName_name : IsName "name".toList := ⟨by decide, List.all_eq_true.mp (by decide)⟩

theorem selector_role (name v : List Char) :
    (role name).selector v
      = "internal:role=".toList ++ (name ++ ('[' :: "name".toList ++ '=' :: v ++ [']'])) := by
  have hattribute : "[name=".toList = '[' :: "name".toList ++ ['='] := by decide
  rw [selector, opening_role, closing_role, hattribute]
  generalize "internal:role=".toList = engine
  generalize "name".toList = word
  simp

theorem readPart_selector_role [Text.View] (name v : List Char) :
    readPart ((role name).selector v)
      = readRole (name ++ ('[' :: "name".toList ++ '=' :: v ++ [']'])) := by
  have hfront : IsFront "internal:role=" "internal:role" := by constructor <;> decide
  rw [selector_role, hfront.readPart_eq]
  rfl

theorem not_mem_of_isNamed {name : List Char} (hname : (role name).IsNamed) : '[' ∉ name := by
  intro hmem
  exact absurd (hname '[' hmem) (by decide +kernel)

theorem readPart_role [Text.View] {name : List Char} (hname : (role name).IsNamed)
    (h : IsAttributeValue v m) :
    readPart ((role name).selector v) = .ok ((role name).step m) := by
  rw [readPart_selector_role]
  exact readRole_eq (not_mem_of_isNamed hname) isName_name h

/-- Every engine reads its value as the matcher that the value means. -/
theorem readPart_selector [Text.View] {e : Engine} (he : e.IsNamed) (h : IsArgument v m)
    (hattribute : IsAttributeValue v m) : readPart (e.selector v) = .ok (e.step m) := by
  cases e with
  | find finder => exact readPart_find finder h
  | filter negated => exact readPart_filter negated h
  | role name => exact readPart_role he hattribute

end

end Engine

end Retrace.Locator
