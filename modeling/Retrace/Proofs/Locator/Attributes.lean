import Retrace.Proofs.Locator.Quoted
import Retrace.Proofs.Number.Whole

/-!
# Attributes of a role

A role may be followed by any number of attributes. Each begins at its own
opening bracket and ends at its own closing one, whatever brackets, equals
signs and further attributes a quoted value holds, and so it becomes its
arguments, in its place among the others.
-/

namespace Retrace.Locator

open Literal Numeral Double

/-! ## Raw values -/

/-- A raw value in brackets: it is cut out whole, it is read as a value, it leaves no quote open
and holds no separator outside quotes. -/
structure IsRaw [Text.View] (raw : List Char) (value : Value) : Prop where
  found : ∀ name rest, IsName name →
    takeAttribute ('[' :: name ++ '=' :: raw ++ ']' :: rest) = some ((name, raw), rest)
  value : readValue raw = .ok value
  whole : IsWhole none raw
  closed : quoteAfter none raw = none

theorem isRaw_quotedValue [Text.View] (text : List Char) (f : Flag) :
    IsRaw (quotedValue text f) (.matching (.text text f.isExact)) := by
  have hvalue := isAttributeValue_quotedValue text f
  have hargument := isArgument_quotedValue text f
  exact ⟨hvalue.found, hvalue.value, hargument.whole, hargument.closed⟩

/-- A value without quotation marks ends at the next closing bracket. -/
theorem isRaw_of_isFrame [Text.View] {raw : List Char} {value : Value} (hraw : IsFrame raw)
    (hbracket : ']' ∉ raw) (hvalue : readValue raw = .ok value) : IsRaw raw value := by
  constructor
  case found =>
    intro name rest hname
    apply takeAttribute_bare hname _ hbracket
    intro hmark
    exact absurd (hraw '\x22' (List.mem_of_mem_head? hmark)).1 (by decide)
  case value => exact hvalue
  case whole => simpa using (IsWhole.nil none).append_frame hraw
  case closed => simpa [quoteAfter] using quoteAfter_frame hraw []

theorem isRaw_flag [Text.View] (b : Bool) :
    IsRaw (if b then "true" else "false").toList (.flag b) := by
  cases b with
  | true =>
    exact isRaw_of_isFrame (isFrame_iff.mpr (by decide)) (by decide) rfl
  | false =>
    exact isRaw_of_isFrame (isFrame_iff.mpr (by decide)) (by decide) rfl

theorem looksNumeric_toString (n : Int) : looksNumeric (toString n).toList = true := by
  have hplain : ∀ c ∈ digitsOf n.natAbs, isPlainDigit c = true :=
    fun _ => isPlainDigit_of_mem_digitsOf
  have hsign : ∀ c ∈ (if n < 0 then ['-'] else []), decide (c = '-') = true := by
    intro c hc
    split at hc
    · simpa using hc
    · cases hc
  have hstop : ∀ c ∈ (digitsOf n.natAbs).head?, decide (c = '-') = false := by
    intro c hc
    simpa using ne_of_mem_digits hplain (by decide) c (List.mem_of_mem_head? hc)
  have hdigits : (digitsOf n.natAbs).all Text.isDigit = true := by
    rw [List.all_eq_true]
    intro c hc
    exact Text.isDigit_of_decimalValue? (decimalValue?_of_isPlainDigit (hplain c hc))
  rw [looksNumeric, toList_toString, (span_append hsign hstop).2]
  simp [hdigits, digitsOf_ne_nil]

theorem not_mem_toString {c : Char} (hc : isNumeralChar c = false) (n : Int) :
    c ∉ (toString n).toList := by
  intro hmem
  rw [isNumeralChar_toString n c hmem] at hc
  cases hc

theorem readValue_toString [Text.View] {n : Int} (h : n.natAbs < 10 ^ digitLimit) :
    readValue (toString n).toList = .ok (.number n) := by
  have hquoted : (toString n).toList.head? ≠ some '\x22' :=
    fun hc => not_mem_toString (by decide) n (List.mem_of_mem_head? hc)
  have hpattern : pattern? (toString n).toList = none := by
    rw [pattern?, patternParts?]
    · rfl
    · intro rest heq
      apply not_mem_toString (c := '/') (by decide) n
      rw [heq]
      exact List.mem_cons_self
  have htrue : (toString n).toList ≠ "true".toList := by
    intro heq
    apply not_mem_toString (c := 't') (by decide) n
    rw [heq]
    decide
  have hfalse : (toString n).toList ≠ "false".toList := by
    intro heq
    apply not_mem_toString (c := 'f') (by decide) n
    rw [heq]
    decide
  rw [readValue, if_neg hquoted, hpattern]
  dsimp only
  rw [if_neg htrue, if_neg hfalse, if_pos (looksNumeric_toString n), readInteger_toString h]

theorem isFrame_toString (n : Int) : IsFrame (toString n).toList := by
  intro c hc
  have hne {d : Char} (hd : isNumeralChar d = false) : c ≠ d := by
    rintro rfl
    exact not_mem_toString hd n hc
  have happostrophe : c ≠ '\'' := hne (by decide)
  have hquotation : c ≠ '\x22' := hne (by decide)
  refine ⟨?_, hne (by decide), hne (by decide)⟩
  simp [isQuoteMark, happostrophe, hquotation]

theorem isRaw_number [Text.View] {n : Int} (h : n.natAbs < 10 ^ digitLimit) :
    IsRaw (toString n).toList (.number n) :=
  isRaw_of_isFrame (isFrame_toString n) (not_mem_toString (by decide) n) (readValue_toString h)

/-! ## Given attributes -/

/-- What an attribute may be given: a quoted text and a flag, a truth value, or a whole number. -/
inductive Given where
  | quoted (text : List Char) (flag : Flag)
  | flag (value : Bool)
  | number (value : Int)
  deriving DecidableEq, Repr

namespace Given

def raw : Given → List Char
  | quoted text f => quotedValue text f
  | flag b => (if b then "true" else "false").toList
  | number n => (toString n).toList

/-- A number has no more digits than may be read. -/
def IsShort : Given → Prop
  | number n => n.natAbs < 10 ^ digitLimit
  | _ => True

def value : Given → Value
  | quoted text f => .matching (.text text f.isExact)
  | flag b => .flag b
  | number n => .number n

/-- The value of the argument. -/
def written : Given → List Char
  | quoted text _ => quote text
  | flag b => (if b then "True" else "False").toList
  | number n => (toString n).toList

/-- What is demanded besides, in an argument of its own. -/
def demands : Given → List (List Char)
  | quoted _ .exact => ["exact=True".toList]
  | _ => []

theorem isRaw [Text.View] {given : Given} (h : given.IsShort) : IsRaw given.raw given.value := by
  cases given with
  | quoted text f => exact isRaw_quotedValue text f
  | flag b => exact isRaw_flag b
  | number n => exact isRaw_number h

end Given

structure GivenAttribute where
  name : List Char
  given : Given
  deriving DecidableEq, Repr

namespace GivenAttribute

/-- An attribute with a name of word characters and dashes, and a value that may be read. -/
structure IsProper (a : GivenAttribute) : Prop where
  name : IsName a.name
  short : a.given.IsShort

/-- The attribute in a selector. -/
def text (a : GivenAttribute) : List Char := '[' :: a.name ++ '=' :: a.given.raw ++ [']']

/-- The name of the argument. -/
def keyword (a : GivenAttribute) : List Char := a.name.map fun c => if c = '-' then '_' else c

/-- The arguments of the attribute in an expression. -/
def arguments (a : GivenAttribute) : List (List Char) :=
  (a.keyword ++ '=' :: a.given.written) :: a.given.demands

theorem write_eq (a : GivenAttribute) : Attribute.write ⟨a.name, a.given.value⟩ = a.arguments := by
  obtain ⟨name, given⟩ := a
  cases given with
  | quoted text f => cases f <;> rfl
  | flag b => rfl
  | number n => rfl

variable {a : GivenAttribute} {attributes : List GivenAttribute}

theorem readAttribute_eq [Text.View] (h : a.IsProper) :
    readAttribute (a.name, a.given.raw) = .ok ⟨a.name, a.given.value⟩ := by
  rw [readAttribute, (Given.isRaw h.short).value]
  rfl

/-! ## Reading -/

/-- Each attribute is found where it begins, and the search goes on where it ends. -/
theorem attributesAfter_flatMap (h : ∀ a ∈ attributes, a.IsProper) :
    attributesAfter 0 (attributes.flatMap text)
      = attributes.map fun a => (a.name, a.given.raw) := by
  induction attributes with
  | nil => rfl
  | cons a attributes ih =>
    obtain ⟨ha, hrest⟩ := List.forall_mem_cons.mp h
    have hfound := (Given.isRaw ha.short).found a.name (attributes.flatMap text) ha.name
    have hcut := attributesAfter_found (a.name ++ '=' :: a.given.raw ++ [']'])
      (attributes.flatMap text) (by simpa using hfound)
    rw [List.flatMap_cons, List.map_cons, ← ih hrest, ← hcut]
    simp [text]

theorem mapM_readAttribute [Text.View] (h : ∀ a ∈ attributes, a.IsProper) :
    (attributes.map fun a => (a.name, a.given.raw)).mapM readAttribute
      = .ok (attributes.map fun a => ⟨a.name, a.given.value⟩) := by
  induction attributes with
  | nil => rfl
  | cons a attributes ih =>
    obtain ⟨ha, hrest⟩ := List.forall_mem_cons.mp h
    rw [List.map_cons, List.mapM_cons, readAttribute_eq ha, ih hrest]
    rfl

/-- A role is read with all of its attributes. -/
theorem readRole_flatMap [Text.View] {role : List Char} (hrole : '[' ∉ role)
    (h : ∀ a ∈ attributes, a.IsProper) :
    readRole (role ++ attributes.flatMap text)
      = .ok (.role role (attributes.map fun a => ⟨a.name, a.given.value⟩)) := by
  have hall : ∀ c ∈ role, (c != '[') = true := by
    intro c hc
    rw [bne_iff_ne]
    rintro rfl
    exact hrole hc
  have hstop : ∀ c ∈ (attributes.flatMap text).head?, (c != '[') = false := by
    cases attributes with
    | nil => simp
    | cons a attributes => simp [text]
  have hname := (span_append hall hstop).1
  rw [readRole, Locator.attributes, attributesAfter_plain hrole, attributesAfter_flatMap h,
    mapM_readAttribute h, hname]
  rfl

/-! ## One part of a chain -/

theorem isFrame_of_isName {name : List Char} (h : IsName name) : IsFrame name := by
  intro c hc
  obtain hword | rfl : Text.isWord c = true ∨ c = '-' := by
    simpa [isNameChar] using h.2 c hc
  · have hone : ∀ d ∈ [c], Text.isWord d = true := by simpa using hword
    exact Engine.isFrame_of_isWord hone c (by simp)
  · decide

theorem isFrame_opening (h : IsName a.name) : IsFrame ('[' :: a.name ++ ['=']) := by
  have hbracket : IsFrame ['['] := isFrame_iff.mpr (by decide)
  have hequals : IsFrame ['='] := isFrame_iff.mpr (by decide)
  exact (hbracket.append (isFrame_of_isName h)).append hequals

theorem flatMap_text_cons (a : GivenAttribute) (attributes : List GivenAttribute) :
    (a :: attributes).flatMap text
      = ('[' :: a.name ++ ['=']) ++ (a.given.raw ++ ']' :: attributes.flatMap text) := by
  simp [text]

theorem isWhole_flatMap (h : ∀ a ∈ attributes, a.IsProper) :
    IsWhole none (attributes.flatMap text) := by
  induction attributes with
  | nil => exact IsWhole.nil none
  | cons a attributes ih =>
    obtain ⟨ha, hrest⟩ := List.forall_mem_cons.mp h
    have hraw := Given.isRaw ha.short
    rw [flatMap_text_cons]
    apply IsWhole.frame_append (isFrame_opening ha.name)
    exact hraw.whole.append_cons hraw.closed (isFrame_iff.mpr (by decide)) (ih hrest)

theorem quoteAfter_flatMap (h : ∀ a ∈ attributes, a.IsProper) :
    quoteAfter none (attributes.flatMap text) = none := by
  induction attributes with
  | nil => rfl
  | cons a attributes ih =>
    obtain ⟨ha, hrest⟩ := List.forall_mem_cons.mp h
    have hraw := Given.isRaw ha.short
    rw [flatMap_text_cons, quoteAfter_frame (isFrame_opening ha.name),
      quoteAfter_append hraw.closed]
    exact ih hrest

/-- A role and its attributes end in a letter, an equals sign or a bracket. -/
theorem getLast?_flatMap {role : List Char} (hrole : ∀ c ∈ role, Text.isWord c = true)
    (attributes : List GivenAttribute) :
    ∃ c, ('=' :: role ++ attributes.flatMap text).getLast? = some c
      ∧ Text.isBlank c = false ∧ c ≠ '>' := by
  obtain rfl | ⟨front, a, rfl⟩ := List.eq_nil_or_concat' attributes
  · obtain rfl | ⟨start, c, rfl⟩ := List.eq_nil_or_concat' role
    · exact ⟨'=', rfl, by decide, by decide⟩
    · have hword : Text.isWord c = true := hrole c (by simp)
      refine ⟨c, ?_, Text.isBlank_eq_false_of_isWord hword,
        Engine.ne_of_isWord hword (by decide +kernel)⟩
      rw [List.flatMap_nil, List.append_nil, ← List.cons_append, List.getLast?_concat]
  · refine ⟨']', ?_, by decide, by decide⟩
    have hlast : '=' :: role ++ (front ++ [a]).flatMap text
        = '=' :: role ++ front.flatMap text ++ '[' :: a.name ++ '=' :: a.given.raw ++ [']'] := by
      simp [text]
    rw [hlast, List.getLast?_concat]

end GivenAttribute

open GivenAttribute

/-! ## The expression -/

section

variable {role : List Char} {given : List GivenAttribute}

theorem isPart_role (hrole : ∀ c ∈ role, Text.isWord c = true) (h : ∀ a ∈ given, a.IsProper) :
    IsPart ("internal:role=".toList ++ (role ++ given.flatMap text)) := by
  have hfront : IsFrame "internal:role".toList := isFrame_iff.mpr (by decide)
  have hfirst : "internal:role".toList.head? = some 'i' := by decide
  have hequals : IsFrame ('=' :: role) :=
    IsFrame.append (s := ['=']) (isFrame_iff.mpr (by decide)) (Engine.isFrame_of_isWord hrole)
  have hclosed : quoteAfter none ('=' :: role ++ given.flatMap text) = none := by
    rw [quoteAfter_frame hequals]
    exact quoteAfter_flatMap h
  obtain ⟨c, hlast, hblank, hseam⟩ := getLast?_flatMap hrole given
  have hpart := isPart_framed hfront hfirst (by decide)
    ((isWhole_flatMap h).frame_append hequals) hclosed (isFrame_iff.mpr rfl)
    (by rwa [List.append_nil]) hblank hseam
  have hengine : "internal:role=".toList = "internal:role".toList ++ ['='] := by decide
  rw [hengine]
  generalize "internal:role".toList = engine at hpart
  simpa using hpart

theorem write_role (role : List Char) (given : List GivenAttribute) :
    (Step.role role (given.map fun a => ⟨a.name, a.given.value⟩)).write
      = "get_by_role(".toList ++ commaSeparated (quote role :: given.flatMap arguments)
        ++ [')'] := by
  have hmethod : "get_by_role(".toList = "get_by_role".toList ++ ['('] := by decide
  have harguments : (given.map fun a => (⟨a.name, a.given.value⟩ : Attribute)).flatMap
      Attribute.write = given.flatMap arguments := by
    rw [List.flatMap_map]
    apply List.flatMap_congr
    intro a _
    exact write_eq a
  rw [Step.write_role, call, harguments, hmethod]
  generalize "get_by_role".toList = method
  simp

/-- The attributes of a role are found completely and in their order, and the expression holds
their arguments in this order. -/
theorem ofSelectorIn_role [Text.View] (hrole : ∀ c ∈ role, Text.isWord c = true)
    (h : ∀ a ∈ given, a.IsProper) :
    ofSelectorIn language ("internal:role=".toList ++ (role ++ given.flatMap text))
        = .ok ("get_by_role(".toList ++ commaSeparated (quote role :: given.flatMap arguments)
          ++ [')'])
      ∧ attributes (role ++ given.flatMap text) = given.map fun a => (a.name, a.given.raw) := by
  have hbracket : '[' ∉ role := by
    intro hmem
    exact absurd (hrole '[' hmem) (by decide +kernel)
  constructor
  · have hfront : IsFront "internal:role=" "internal:role" := by constructor <;> decide
    have hread : readPart ("internal:role=".toList ++ (role ++ given.flatMap text))
        = .ok (.role role (given.map fun a => ⟨a.name, a.given.value⟩)) := by
      rw [hfront.readPart_eq]
      exact readRole_flatMap hbracket h
    rw [(isPart_role hrole h).ofSelectorIn_eq, writePart, hread, ← write_role]
    rfl
  · rw [attributes, attributesAfter_plain hbracket, attributesAfter_flatMap h]

theorem ofSelectorIn_role_lookalike :
    ofSelectorIn language
        "internal:role=button[name=\x22] [x=1] \\\x22\x22s][aria-pressed=true][level=-2]".toList
      = .ok ("get_by_role(\x22button\x22, name=\x22] [x=1] \\\x22\x22, exact=True, ".toList
        ++ "aria_pressed=True, level=-2)".toList) := by
  have hword : ∀ c ∈ "button".toList, Text.isWord c = true :=
    List.all_eq_true.mp (by decide)
  have hshort : (-2 : Int).natAbs < 10 ^ digitLimit := by decide +kernel
  have hproper : ∀ a ∈ [⟨"name".toList, .quoted "] [x=1] \x22".toList .exact⟩,
      ⟨"aria-pressed".toList, .flag true⟩, ⟨"level".toList, .number (-2)⟩], IsProper a := by
    simp only [List.forall_mem_cons, List.not_mem_nil, IsEmpty.forall_iff, implies_true, and_true]
    refine ⟨⟨⟨?_, List.all_eq_true.mp ?_⟩, trivial⟩, ⟨⟨?_, List.all_eq_true.mp ?_⟩, trivial⟩,
      ⟨?_, List.all_eq_true.mp ?_⟩, hshort⟩
    all_goals decide +kernel
  have h := (ofSelectorIn_role hword hproper).1
  have hselector : "internal:role=".toList ++ ("button".toList ++ List.flatMap text
      [⟨"name".toList, .quoted "] [x=1] \x22".toList .exact⟩,
        ⟨"aria-pressed".toList, .flag true⟩, ⟨"level".toList, .number (-2)⟩])
      = "internal:role=button[name=\x22] [x=1] \\\x22\x22s][aria-pressed=true][level=-2]".toList :=
    by decide
  rw [hselector] at h
  rw [h]
  decide

end

end Retrace.Locator
