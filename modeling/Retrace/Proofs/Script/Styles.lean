import Retrace.Proofs.Script.Distinct
import Retrace.Proofs.Script.Lines

/-!
# The two styles of calls

An operation on an element is one method with some arguments, whichever way the
element is found. The styles only put the selector in different places: in front
of the arguments, or, as a locator, in front of the method. An adapter has a say
in the second style alone, and there only after the arguments have been written.
-/

namespace Retrace.Script

open Literal
open Recording hiding ofDatum

/-! ## Arguments that cannot be written -/

/-- Why an operation has no arguments: a number of clicks that is too long to be written, or
else a position with a coordinate that is not finite, of which the first counts. -/
inductive HasNoArguments : Operation → Fault → Prop
  | count {c : Click} (h : 10 ^ Numeral.digitLimit ≤ c.clickCount) :
    HasNoArguments (.click c) .integerTooLong
  | position {c : Click} {p : Point} {x : Double}
    (hcount : c.clickCount < 10 ^ Numeral.digitLimit) (hposition : c.position = some p)
    (hx : nonFinite? p = some x) :
    HasNoArguments (.click c) (.unsupportedValue (.double x) none)

theorem writeOptions_of_long {c : Click} (h : 10 ^ Numeral.digitLimit ≤ c.clickCount) :
    writeOptions (clickOptions c) = .error .integerTooLong := by
  have hmany : 2 < c.clickCount := lt_of_lt_of_le (by decide +kernel) h
  obtain ⟨items, hitems⟩ := Result.exists_mapM_eq_ok (exists_item_buttonOptions c)
  have hcount : (countOptions c).mapM (Options.item {}) = .error .tooLong := by
    have hitem : Options.item {} ("clickCount", .int c.clickCount) = .error .tooLong := by
      apply item_of_error
      rw [ofDatum]
      exact ofInt_of_le (by simpa using h)
    rw [countOptions, if_pos hmany, List.mapM_cons, hitem]
    rfl
  have hfirst : (buttonOptions c ++ countOptions c).mapM (Options.item {}) = .error .tooLong := by
    rw [Result.mapM_append_of_ok hitems, hcount]
    rfl
  rw [writeOptions, Options.write_eq_map, canonical_clickOptions, List.append_assoc,
    Result.mapM_append_of_error hfirst]
  rfl

theorem callOf_of_hasNoArguments {o : Operation} {fault : Fault} (h : HasNoArguments o fault) :
    callOf o = .error fault := by
  cases h with
  | count h =>
    rw [callOf, writeOptions_of_long h]
    rfl
  | position hcount hposition hx =>
    rw [callOf, writeOptions_of_nonFinite hcount hposition hx]
    rfl

/-- An operation on an element has a call, unless its arguments cannot be written. -/
theorem callOf_cases {o : Operation} {selector : String} (h : selectorOf? o = some selector) :
    (∃ call, callOf o = .ok call) ∨ ∃ fault, HasNoArguments o fault := by
  by_cases hfault : ∃ fault, HasNoArguments o fault
  · exact .inr hfault
  · left
    apply exists_callOf
    · rintro url rfl
      cases h
    · rintro c rfl
      have hcount : c.clickCount < 10 ^ Numeral.digitLimit := by
        by_contra hlong
        exact hfault ⟨_, .count (Nat.le_of_not_lt hlong)⟩
      refine ⟨hcount, ?_⟩
      intro p hp
      by_contra hne
      obtain ⟨x, hx⟩ := Option.ne_none_iff_exists'.mp hne
      exact hfault ⟨_, .position hcount hp hx⟩

/-! ## Calls in both styles -/

theorem writeOperation_of_callOf {o : Operation} {call : Call} (h : callOf o = .ok call)
    (style : Style) (adapter : Adapter) :
    writeOperation style adapter o = call.write style adapter := by
  rw [writeOperation, h]
  rfl

theorem writeOperation_of_hasNoArguments {o : Operation} {fault : Fault}
    (h : HasNoArguments o fault) (style : Style) (adapter : Adapter) :
    writeOperation style adapter o = .error fault := by
  rw [writeOperation, callOf_of_hasNoArguments h]
  rfl

theorem Call.write_locator (c : Call) {selector : List Char} (h : c.selector = some selector)
    (adapter : Adapter) : c.write .locator adapter = do
      let locator ← (adapter selector).mapError .locator
      return locator ++ '.' :: c.method ++ '(' :: c.arguments ++ [')'] := by
  unfold Call.write
  rw [h]

/-- An operation on an element has one method, which belongs to its kind, and one text of
arguments. With the selector as an argument the adapter makes no difference, so its faults do not
either. With a locator it is asked for just this selector, and what it gives stands in front of
the method. If the arguments cannot be written, their fault is that of both styles, whatever the
adapter would have said. -/
theorem writeOperation_styles {o : Operation} {selector : String}
    (h : selectorOf? o = some selector) :
    (∃ method arguments, (method, o.kind) ∈ methodKinds ∧ ∀ adapter,
        writeOperation .selector adapter o = .ok (method.toList ++ '(' :: quote selector.toList
          ++ (if arguments = [] then [] else ", ".toList ++ arguments) ++ [')'])
        ∧ writeOperation .locator adapter o = do
          let locator ← (adapter selector.toList).mapError .locator
          return locator ++ '.' :: method.toList ++ '(' :: arguments ++ [')'])
      ∨ ∃ fault, HasNoArguments o fault
        ∧ ∀ style adapter, writeOperation style adapter o = .error fault := by
  obtain ⟨call, hcall⟩ | ⟨fault, hfault⟩ := callOf_cases h
  · left
    obtain ⟨m, hm, hmethod, hkind⟩ := exists_methodKind hcall
    have hselector : call.selector = some selector.toList := by
      rw [(isCallOf_callOf hcall).selector, h]
      rfl
    refine ⟨m.1, call.arguments, hkind ▸ hm, ?_⟩
    intro adapter
    rw [writeOperation_of_callOf hcall, writeOperation_of_callOf hcall, ← hmethod]
    constructor
    · rw [call.write_selector, Call.text, hselector]
      simp [withSelector]
    · exact call.write_locator hselector adapter
  · exact .inr ⟨fault, hfault, writeOperation_of_hasNoArguments hfault⟩

/-- A click at a position that is no number has no arguments, so it does not come to a locator. -/
theorem writeOperation_styles_astray :
    selectorOf? astray.action.operation = some "#a"
      ∧ ∀ style adapter, writeOperation style adapter astray.action.operation
        = .error (.unsupportedValue (.double .nan) none) := by
  have hselector : selectorOf? astray.action.operation = some "#a" := rfl
  have hastray : HasNoArguments astray.action.operation (.unsupportedValue (.double .nan) none) :=
    .position (Nat.one_lt_pow (by decide) (by decide)) rfl (by decide)
  refine ⟨hselector, ?_⟩
  obtain ⟨method, arguments, -, hwritten⟩ | ⟨fault, hfault, hfails⟩ :=
    writeOperation_styles hselector
  · have hboth := (hwritten .ok).1
    rw [writeOperation_of_hasNoArguments hastray] at hboth
    cases hboth
  · have hsame := hfails .selector .ok
    rw [writeOperation_of_hasNoArguments hastray] at hsame
    cases hsame
    exact hfails

end Retrace.Script
