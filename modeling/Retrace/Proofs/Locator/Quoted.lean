import Retrace.Proofs.Json.Quoted
import Retrace.Proofs.Literal.RoundTrip
import Retrace.Proofs.Locator.Enclosed
import Retrace.Proofs.Locator.Engine

/-!
# Quoted texts as values

A selector that holds a quoted text, with or without a flag, becomes an
expression that holds the same literal. The body of the literal is cut out
whole by every reader, is decoded to the text, and is escaped again.
-/

namespace Retrace.Locator

open Literal

/-- What may follow the closing mark of a quoted text. -/
inductive Flag where
  | plain
  | anyCase
  | exact
  deriving DecidableEq, Repr

namespace Flag

def text : Flag → List Char
  | plain => []
  | anyCase => ['i']
  | exact => ['s']

def isExact : Flag → Bool
  | exact => true
  | _ => false

theorem isFrame_text (f : Flag) : IsFrame f.text :=
  isFrame_iff.mpr (by cases f <;> decide)

theorem takeFlag_text (f : Flag) {rest : List Char} (h : ∀ c ∈ rest.head?, c ≠ 's' ∧ c ≠ 'i') :
    takeFlag (f.text ++ rest) = (f.isExact, rest) := by
  cases f with
  | anyCase => rfl
  | exact => rfl
  | plain =>
    rw [text, List.nil_append, takeFlag]
    · rfl
    · rintro after rfl
      exact (h 's' rfl).1 rfl
    · rintro after rfl
      exact (h 'i' rfl).2 rfl

end Flag

/-- A quoted text as a value. -/
def quotedValue (text : List Char) (f : Flag) : List Char := quote text ++ f.text

theorem quotedValue_append (text : List Char) (f : Flag) (rest : List Char) :
    quotedValue text f ++ rest
      = '\x22' :: (escape .quotation text ++ '\x22' :: (f.text ++ rest)) := by
  simp [quotedValue, quote_eq]

theorem quotedValue_eq (text : List Char) (f : Flag) :
    quotedValue text f = '\x22' :: (escape .quotation text ++ '\x22' :: f.text) := by
  simpa using quotedValue_append text f []

section

variable (text : List Char) (f : Flag)

/-! ## Cutting out the value -/

theorem quotedBody?_quotedValue :
    quotedBody? (quotedValue text f) = some (escape .quotation text, f.isExact) := by
  have hflag : takeFlag (f.text ++ []) = (f.isExact, []) := f.takeFlag_text (by simp)
  rw [List.append_nil] at hflag
  rw [quotedValue_eq, quotedBody?, (enclosed_escape text).takeQuoted_eq]
  dsimp only
  rw [hflag]
  rfl

theorem quotedAttribute?_quotedValue :
    quotedAttribute? (quotedValue text f ++ [']']) = some (quotedValue text f) := by
  have hflag : takeFlag (f.text ++ [']']) = (f.isExact, [']']) := f.takeFlag_text (by simp)
  rw [quotedValue_append, quotedAttribute?, (enclosed_escape text).takeQuoted_eq]
  dsimp only
  rw [hflag]
  simp [closes, atEnd, quotedValue_eq]

theorem takeQuotedValue_quotedValue (rest : List Char) :
    takeQuotedValue (quotedValue text f ++ ']' :: rest) = some (quotedValue text f, rest) := by
  have hflag : takeFlag (f.text ++ ']' :: rest) = (f.isExact, ']' :: rest) :=
    f.takeFlag_text (by simp)
  rw [quotedValue_append, takeQuotedValue, (enclosed_escape text).takeQuoted_eq]
  dsimp only
  rw [hflag]
  simp [quotedValue_eq]

/-! ## Decoding it -/

theorem readPlain_quotedValue [Text.View] :
    readPlain (quotedValue text f) = .ok (text, f.isExact) := by
  rw [readPlain, quotedBody?_quotedValue]
  dsimp only
  rw [Json.readQuoted_escape]
  simp [Datum.text?]

/-- A quoted text is no pattern. -/
theorem pattern?_quotedValue : pattern? (quotedValue text f) = none := by
  rw [quotedValue_eq]
  rfl

theorem readMatcher_quotedValue [Text.View] :
    readMatcher (quotedValue text f) = .ok (.text text f.isExact) := by
  rw [readMatcher, pattern?_quotedValue, readPlain_quotedValue]
  rfl

theorem isAttributeValue_quotedValue [Text.View] :
    IsAttributeValue (quotedValue text f) (.text text f.isExact) := by
  constructor
  case found =>
    intro name rest hname
    have hcut : '[' :: name ++ '=' :: quotedValue text f ++ ']' :: rest
        = '[' :: (name ++ '=' :: (quotedValue text f ++ ']' :: rest)) := by
      simp
    rw [hcut, takeAttribute, takeName_append hname]
    dsimp only
    rw [takeQuotedValue_quotedValue]
    rfl
  case value =>
    have hhead : (quotedValue text f).head? = some '\x22' := by
      rw [quotedValue_eq]
      rfl
    rw [readValue, if_pos hhead, readPlain_quotedValue]
    rfl

theorem isArgument_quotedValue [Text.View] :
    IsArgument (quotedValue text f) (.text text f.isExact) := by
  constructor
  case matcher => exact readMatcher_quotedValue text f
  case body =>
    intro name hname
    have hcut : '[' :: name ++ '=' :: quotedValue text f ++ [']']
        = '[' :: (name ++ '=' :: (quotedValue text f ++ [']'])) := by
      simp
    rw [hcut, attributeBody?, takeName_append hname]
    dsimp only
    rw [quotedAttribute?_quotedValue]
    rfl
  case whole =>
    have hflag : IsWhole none f.text := by
      simpa using (IsWhole.nil none).append_frame f.isFrame_text
    have hinside : IsWhole (some '\x22') (escape .quotation text ++ '\x22' :: f.text) :=
      (enclosed_escape text).isWhole hflag
    rw [quotedValue_eq]
    apply hinside.cons
    · intro before
      rfl
    · intro _
      decide
  case closed =>
    have hopen : quoteAfter none (quotedValue text f)
        = quoteAfter (some '\x22') (escape .quotation text ++ '\x22' :: f.text) := by
      rw [quotedValue_eq]
      rfl
    rw [hopen, (enclosed_escape text).quoteAfter_append, quoteAfter_inside (by decide), if_pos rfl,
      ← List.append_nil f.text, quoteAfter_frame f.isFrame_text]
    rfl
  case last =>
    have hlast : (quotedValue text f).getLast? = ('\x22' :: f.text).getLast? := by
      rw [quotedValue_eq, ← List.cons_append,
        List.getLast?_append_of_ne_nil _ (List.cons_ne_nil _ _)]
    rw [hlast]
    cases f with
    | plain => exact ⟨'\x22', rfl, by decide, by decide⟩
    | anyCase => exact ⟨'i', rfl, by decide, by decide⟩
    | exact => exact ⟨'s', rfl, by decide, by decide⟩

end

/-! ## The expression -/

/-- Whatever a quoted text holds, the expression holds the literal of the same text. -/
theorem ofSelectorIn_quotedValue [Text.View] {e : Engine} (he : e.IsNamed) (text : List Char)
    (f : Flag) : ofSelectorIn language (e.selector (quote text ++ f.text))
        = .ok (e.expression (quote text) f.isExact)
      ∧ Literal.read? (quote text) = some (.text (String.ofList text)) := by
  constructor
  · have hpart : IsPart (e.selector (quotedValue text f)) :=
      Engine.isPart_selector he (isArgument_quotedValue text f)
    change ofSelectorIn language (e.selector (quotedValue text f)) = _
    rw [hpart.ofSelectorIn_eq, writePart, Engine.readPart_selector he
      (isArgument_quotedValue text f) (isAttributeValue_quotedValue text f)]
    change Except.ok ((e.step _).write) = _
    rw [Engine.write_step]
    rfl
  · exact (Reads.quote text).read?

theorem ofSelectorIn_quotedValue_button :
    ofSelectorIn language "internal:role=button[name=\x22] \\\x22 >> /\\n\\\\\x22s]".toList
        = .ok "get_by_role(\x22button\x22, name=\x22] \\\x22 >> /\\n\\\\\x22, exact=True)".toList
      ∧ Literal.read? "\x22] \\\x22 >> /\\n\\\\\x22".toList = some (.text "] \x22 >> /\n\\") := by
  have hnamed : (Engine.role "button".toList).IsNamed := by
    have hword : ("button".toList.all Text.isWord) = true := by decide
    exact List.all_eq_true.mp hword
  have h := ofSelectorIn_quotedValue hnamed "] \x22 >> /\n\\".toList .exact
  have hselector : (Engine.role "button".toList).selector
      (quote "] \x22 >> /\n\\".toList ++ Flag.exact.text)
        = "internal:role=button[name=\x22] \\\x22 >> /\\n\\\\\x22s]".toList := by
    decide
  have hexpression : (Engine.role "button".toList).expression
      (quote "] \x22 >> /\n\\".toList) Flag.exact.isExact
        = "get_by_role(\x22button\x22, name=\x22] \\\x22 >> /\\n\\\\\x22, exact=True)".toList := by
    decide
  have hliteral : quote "] \x22 >> /\n\\".toList = "\x22] \\\x22 >> /\\n\\\\\x22".toList := by
    decide
  rw [hselector, hexpression, hliteral, String.ofList_toList] at h
  exact h

end Retrace.Locator
