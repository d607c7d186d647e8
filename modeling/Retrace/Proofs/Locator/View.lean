import Retrace.Locator.Step
import Retrace.Proofs.Literal.View

/-!
# Locator expressions in every view

The halves of surrogate pairs in quoted values are copied into the expression of a selector. How
the selector is taken apart does not depend on them, and neither does a fault.
-/

namespace Retrace.Locator

open Literal Text

/-! ## Values -/

/-- Matchers that are written alike, and ask for the exact text alike. -/
structure MatcherIsAlike (m : InertView → Matcher) : Prop where
  written : IsShown fun v => (m v).write
  exact : IsFixed fun v => (m v).isExact

theorem matcherIsAlike_const (m : Matcher) : MatcherIsAlike fun _ => m :=
  ⟨.const _, _, fun _ => rfl⟩

theorem matcherIsAlike_text {value : InertView → List Char × Bool}
    (h : (IsShown fun v => (value v).1) ∧ IsFixed fun v => (value v).2) :
    MatcherIsAlike fun v => .text (value v).1 (value v).2 :=
  ⟨isShown_quote h.1, h.2⟩

theorem isUniform_readPlain (s : List Char) :
    IsUniform (fun value => (IsShown fun v => (value v).1) ∧ IsFixed fun v => (value v).2)
      fun v => @readPlain v.toView s := by
  simp only [readPlain]
  cases quotedBody? s with
  | none => exact .ok ⟨.const s, false, fun _ => rfl⟩
  | some found =>
    obtain ⟨body, isExact⟩ := found
    dsimp only
    cases Json.readQuoted body with
    | error fault => exact .error fault
    | ok value =>
      refine .ok ⟨?_, isExact, fun _ => rfl⟩
      obtain hsame | ⟨points, hshown⟩ := viewed_eq_self_or value
      · simp only [hsame]
        exact .const _
      · simp only [hshown, Datum.text?_text, Option.getD_some, String.toList_ofList]
        exact .shown points

theorem isUniform_readMatcher (s : List Char) :
    IsUniform MatcherIsAlike fun v => @readMatcher v.toView s := by
  simp only [readMatcher]
  cases pattern? s with
  | some m => exact .ok (matcherIsAlike_const m)
  | none => exact (isUniform_readPlain s).bind fun value hvalue => .ok (matcherIsAlike_text hvalue)

/-! ## Roles -/

/-- Attributes that have the same arguments in every inert view. -/
def AttributeIsAlike (a : InertView → Attribute) : Prop := Each IsShown fun v => (a v).write

theorem attributeIsAlike_const (a : Attribute) : AttributeIsAlike fun _ => a :=
  .const fun argument _ => .const argument

theorem attributeIsAlike_matching (name : List Char) {m : InertView → Matcher}
    (h : MatcherIsAlike m) : AttributeIsAlike fun v => ⟨name, .matching (m v)⟩ := by
  obtain ⟨b, hexact⟩ := h.exact
  simp only [AttributeIsAlike, Attribute.write, hexact]
  have hargument := (IsShown.const (name.map fun c => if c = '-' then '_' else c)).append
    (h.written.cons '=')
  exact Each.cons hargument (.const fun argument _ => .const argument)

theorem isUniform_readAttribute (found : List Char × List Char) :
    IsUniform AttributeIsAlike fun v => @readAttribute v.toView found := by
  obtain ⟨name, raw⟩ := found
  simp only [readAttribute, readValue]
  split
  · simp only [bind_assoc, pure_bind]
    exact ((isUniform_readPlain raw).mapError _).bind fun value hvalue =>
      .ok (attributeIsAlike_matching name (matcherIsAlike_text hvalue))
  · exact .const _ attributeIsAlike_const

/-! ## Steps -/

/-- Steps that are written alike. -/
def StepIsAlike (step : InertView → Step) : Prop := IsShown fun v => (step v).write

theorem stepIsAlike_const (step : Step) : StepIsAlike fun _ => step := .const _

theorem isShown_call (method : String) {arguments : InertView → List (List Char)}
    (h : Each IsShown arguments) : IsShown fun v => call method (arguments v) :=
  ((IsShown.const _).append ((isShown_commaSeparated h).cons '(')).append (.const _)

theorem stepIsAlike_find (finder : Finder) {m : InertView → Matcher} (h : MatcherIsAlike m) :
    StepIsAlike fun v => .find finder (m v) := by
  obtain ⟨b, hexact⟩ := h.exact
  simp only [StepIsAlike, Step.write_find, hexact]
  exact isShown_call _ (Each.cons h.written (.const fun argument _ => .const argument))

theorem stepIsAlike_filter (negated : Bool) {m : InertView → Matcher} (h : MatcherIsAlike m) :
    StepIsAlike fun v => .filter negated (m v) := by
  simp only [StepIsAlike, Step.write_filter]
  exact isShown_call _ (Each.nil.cons ((IsShown.const _).append h.written))

theorem stepIsAlike_role (name : List Char) {attributes : InertView → List Attribute}
    (h : Each AttributeIsAlike attributes) : StepIsAlike fun v => .role name (attributes v) := by
  simp only [StepIsAlike, Step.write_role]
  exact isShown_call _ ((h.flatMap fun _ ha => ha).cons (.const _))

theorem isUniform_readRole (body : List Char) :
    IsUniform StepIsAlike fun v => @readRole v.toView body :=
  (IsUniform.mapM isUniform_readAttribute (attributes body)).bind fun _ hfound =>
    .ok (stepIsAlike_role _ hfound)

theorem isUniform_readFind (finder : Finder) (raw : List Char) :
    IsUniform StepIsAlike fun v => @readFind v.toView finder raw :=
  ((isUniform_readMatcher raw).mapError _).map fun _ => stepIsAlike_find finder

theorem isUniform_readEngine (part body : List Char) (engine : String) :
    IsUniform StepIsAlike fun v => @readEngine v.toView part body engine := by
  have hlocator : IsUniform StepIsAlike fun _ =>
      (.ok (.locator part) : Except ValueFault Step) := .ok (stepIsAlike_const _)
  simp only [readEngine]
  split
  · exact isUniform_readRole body
  · exact isUniform_readFind _ body
  · exact isUniform_readFind _ body
  · exact ((isUniform_readMatcher body).mapError _).map fun _ => stepIsAlike_filter false
  · exact ((isUniform_readMatcher body).mapError _).map fun _ => stepIsAlike_filter true
  · split
    · split
      · exact isUniform_readFind _ _
      · exact hlocator
    · exact hlocator
  · split
    · split
      · exact isUniform_readFind _ _
      · exact hlocator
    · exact hlocator
  · exact hlocator

theorem isUniform_readPart (part : List Char) :
    IsUniform StepIsAlike fun v => @readPart v.toView part := by
  simp only [readPart]
  split
  · exact .ok (stepIsAlike_const _)
  · exact isUniform_readEngine _ _ _

/-- The expression of a selector has the same code points in every inert view. -/
theorem isUniform_ofSelector (selector : List Char) :
    IsUniform IsShown fun v => @ofSelector v.toView selector :=
  (IsUniform.mapM isUniform_readPart (parts selector)).bind fun _ hsteps =>
    .ok (.intercalate ['.'] (hsteps.map fun _ h => h))

end Retrace.Locator
