import Retrace.Fault
import Retrace.Proofs.Script.Assembly

/-!
# Faults of scripts are reported

The faults that are not reported come from values of the wrong kind. A recording that has been
checked has none, and settings give none to the header, so whatever stands in the way of a
script is reported.
-/

namespace Retrace.Script

open Recording Result

/-- A fault that is reported to the user. -/
def IsReported (fault : Fault) : Prop := Retrace.Fault.ofScriptIsReported fault = true

theorem isReported_ofLiteral (fault : Literal.Fault) : IsReported (.ofLiteral fault) := by
  cases fault <;> rfl

theorem isReported_placed {fault : Fault} (h : IsReported fault) (place : Nat) :
    IsReported (fault.placed place) := by
  cases fault <;> exact h

/-! ## Calls -/

section

variable {P : Fault → Prop} (hliteral : ∀ fault, P (.ofLiteral fault))

include hliteral

theorem failsOnly_literal (d : Datum) : FailsOnly P (literal d) :=
  .mapError fun fault _ => hliteral fault

theorem failsOnly_writeOptions [Text.View] (options : Literal.Options) :
    FailsOnly P (writeOptions options) :=
  .mapError fun fault _ => hliteral fault

/-- Apart from a page that is opened, the faults of calls are those of their literals. -/
theorem failsOnly_callOf {o : Operation} (hopen : ∀ url, o = .openPage url → P .notACall) :
    FailsOnly P (callOf o) := by
  cases o with
  | openPage url => exact .error (hopen url rfl)
  | closePage => exact .ok _
  | click c => exact .bind (failsOnly_writeOptions hliteral _) fun arguments _ => .ok _
  | check selector => exact .ok _
  | uncheck selector => exact .ok _
  | fill selector text => exact .ok _
  | setInputFiles selector files =>
    exact .bind (failsOnly_literal hliteral _) fun arguments _ => .ok _
  | press selector key modifiers => exact .ok _
  | navigate url => exact .ok _
  | select selector options => exact .bind (failsOnly_literal hliteral _) fun arguments _ => .ok _

omit hliteral in
theorem failsOnly_write (hlocator : ∀ fault, P (.locator fault)) (style : Style) (adapter : Adapter)
    (c : Call) : FailsOnly P (c.write style adapter) := by
  unfold Call.write
  split
  · exact .ok _
  · exact .ok _
  · exact .bind (.mapError fun fault _ => hlocator fault) fun locator _ => .ok _

theorem failsOnly_writeOperation (hlocator : ∀ fault, P (.locator fault)) {o : Operation}
    (hopen : ∀ url, o = .openPage url → P .notACall) (style : Style) (adapter : Adapter) :
    FailsOnly P (writeOperation style adapter o) :=
  .bind (failsOnly_callOf hliteral hopen) fun call _ => failsOnly_write hlocator style adapter call

end

/-! ## Fragments -/

theorem failsOnly_subject (f : Frame) (navigation : Bool) :
    FailsOnly IsReported (subject f navigation) := by
  unfold subject
  dsimp only
  split_ifs
  · exact .ok _
  · exact .ok _
  · split
    · exact .ok _
    · exact .ok _
    · exact .error rfl

theorem failsOnly_fragment (g : Generator) (e : Entry) : FailsOnly IsReported (g.fragment e) := by
  apply FailsOnly.map
  by_cases hopen : ∃ url, e.action.operation = .openPage url
  · obtain ⟨url, hurl⟩ := hopen
    rw [nodes_openPage hurl]
    exact .ok _
  · rw [nodes_of_call (not_exists.mp hopen)]
    apply FailsOnly.bind (failsOnly_subject _ _)
    intro s _
    have hcall : FailsOnly IsReported (writeOperation g.style g.adapter e.action.operation) :=
      failsOnly_writeOperation isReported_ofLiteral (fun _ => rfl) (fun _ _ => rfl) _ _
    exact .bind hcall fun call _ => .ok _

/-- The fault of a list is the one of an item, with its place. -/
theorem failsOnly_fragmentsFrom {α : Type} {write : α → Except Fault (List Char)}
    (h : ∀ a, FailsOnly IsReported (write a)) (index : Nat) (l : List α) :
    FailsOnly IsReported (fragmentsFrom write index l) := by
  intro fault hfault
  obtain ⟨before, a, after, -, -, ha⟩ := (isTraversal_fragmentsFrom write).eq_error_iff.mp hfault
  cases hwrite : write a with
  | ok s =>
    rw [hwrite] at ha
    cases ha
  | error first =>
    rw [hwrite] at ha
    cases ha
    exact isReported_placed (h a first hwrite) _

/-! ## Headers -/

/-- A viewport that settings can give: nothing, or two sizes. -/
def IsPair (viewport : Datum) : Prop :=
  viewport = .none ∨ ∃ width height, viewport = .tuple [width, height]

theorem isPair_viewport (s : Settings) : IsPair s.headerOptions.viewport := by
  change IsPair s.viewport
  unfold Settings.viewport
  split_ifs
  · exact .inl rfl
  · exact .inr ⟨_, _, rfl⟩

theorem failsOnly_contextOptions {o : Options} (h : IsPair o.viewport) :
    FailsOnly IsReported (contextOptions o) := by
  unfold contextOptions
  obtain hnone | ⟨width, height, hpair⟩ := h
  · rw [hnone]
    exact .ok _
  · rw [hpair]
    exact .ok _

theorem failsOnly_taskHeader [Text.View] (o : Options) : FailsOnly IsReported (taskHeader o) := by
  apply FailsOnly.bind (.mapError fun fault _ => isReported_ofLiteral fault)
  intro options _
  split
  · exact .ok _
  · exact .error rfl

theorem failsOnly_runHeader [Text.View] {o : Options} (h : IsPair o.viewport) :
    FailsOnly IsReported (runHeader o) := by
  apply FailsOnly.bind (failsOnly_writeOptions isReported_ofLiteral _)
  intro launch _
  apply FailsOnly.bind (failsOnly_contextOptions h)
  intro options _
  exact .bind (failsOnly_writeOptions isReported_ofLiteral options) fun context _ => .ok _

theorem failsOnly_header [Text.View] (language : Language) {o : Options} (h : IsPair o.viewport) :
    FailsOnly IsReported (header language o) := by
  cases language with
  | robocorp => exact failsOnly_taskHeader o
  | python => exact failsOnly_runHeader h

theorem failsOnly_script [Text.View] (g : Generator) (recording : List Entry) (s : Settings)
    (saveStorage : Option String) :
    FailsOnly IsReported (g.script recording s.headerOptions saveStorage) := by
  apply FailsOnly.bind (failsOnly_header g.language (isPair_viewport s))
  intro head _
  exact .bind (failsOnly_fragmentsFrom (failsOnly_fragment g) 0 recording) fun fragments _ => .ok _

end Retrace.Script
