import Retrace.Proofs.Command.Escape
import Retrace.Proofs.Script.View

/-!
# Scripts told from two views

A script is made in a lower and in an upper view, and its code points are told from the two. They
are those that every inert view shows, and where there are none the fault is that of every inert
view. A script without halves of surrogate pairs is the text that all of them show.
-/

namespace Retrace.Command

open Text

variable {s : Setting} {o : Generate} {points : List Nat} {fault : Fault}

theorem isUniform_scriptOf (s : Setting) (o : Generate) :
    IsUniform IsShown fun v => @scriptOf v.toView s o := by
  have hprepare (v : InertView) := prepare_eq (@Locator.ofSelector v.toView) Locator.ofSelector s o
  simp only [scriptOf, hprepare]
  cases prepare Locator.ofSelector s o with
  | error fault => exact .error fault
  | ok prepared =>
    obtain ⟨settings, language, style, adapter⟩ := prepared
    dsimp only [Except.map, bind, Except.bind]
    cases (Recording.load s.tree o.recording).mapError Fault.recording with
    | error fault => exact .error fault
    | ok recording => exact (Script.isUniform_script language style recording _ _).mapError _

theorem scriptPoints_of_shown (hpoints : ∀ n ∈ points, IsPoint n)
    (h : ∀ v : InertView, @scriptOf v.toView s o = .ok (v.shown points)) :
    scriptPoints s o = .ok points := by
  have hlower : @scriptOf .lower s o = .ok (points.map (@viewed .lower)) := h .lower
  have hupper : @scriptOf .upper s o = .ok (points.map (@viewed .upper)) := h .upper
  rw [scriptPoints_eq, hlower, hupper]
  exact congrArg Except.ok (seen_viewed hpoints)

theorem scriptPoints_of_fault (h : ∀ v : InertView, @scriptOf v.toView s o = .error fault) :
    scriptPoints s o = .error fault := by
  have hlower : @scriptOf .lower s o = .error fault := h .lower
  rw [scriptPoints_eq, hlower]
  rfl

/-- Making a script fails in every inert view with one fault, or all views show one text. -/
theorem fault_or_shown (s : Setting) (o : Generate) :
    (∃ fault, ∀ v : InertView, @scriptOf v.toView s o = .error fault)
      ∨ ∃ points, (∀ n ∈ points, IsPoint n)
        ∧ ∀ v : InertView, @scriptOf v.toView s o = .ok (v.shown points) := by
  obtain hfault | ⟨text, hshown, htext⟩ := isUniform_scriptOf s o
  · exact .inl hfault
  · obtain ⟨points, hpoints, hsame⟩ := hshown.exists_points
    exact .inr ⟨points, hpoints, fun v => (htext v).trans (congrArg Except.ok (hsame v))⟩

theorem scriptPoints_eq_ok_iff :
    scriptPoints s o = .ok points
      ↔ (∀ n ∈ points, IsPoint n)
        ∧ ∀ v : InertView, @scriptOf v.toView s o = .ok (v.shown points) := by
  refine ⟨fun h => ?_, fun ⟨hpoints, h⟩ => scriptPoints_of_shown hpoints h⟩
  obtain ⟨fault, hfault⟩ | ⟨shown, hpoints, hshown⟩ := fault_or_shown s o
  · cases h.symm.trans (scriptPoints_of_fault hfault)
  · cases h.symm.trans (scriptPoints_of_shown hpoints hshown)
    exact ⟨hpoints, hshown⟩

theorem scriptPoints_eq_error_iff :
    scriptPoints s o = .error fault ↔ ∀ v : InertView, @scriptOf v.toView s o = .error fault := by
  refine ⟨fun h => ?_, scriptPoints_of_fault⟩
  obtain ⟨cause, hcause⟩ | ⟨shown, hpoints, hshown⟩ := fault_or_shown s o
  · cases h.symm.trans (scriptPoints_of_fault hcause)
    exact hcause
  · cases h.symm.trans (scriptPoints_of_shown hpoints hshown)

/-- A script without halves is the same text in every inert view. -/
theorem characters_scriptPoints_iff {text : List Char} (h : scriptPoints s o = .ok points) :
    characters points = .ok text ↔ ∀ v : InertView, @scriptOf v.toView s o = .ok text := by
  obtain ⟨hpoints, hscript⟩ := scriptPoints_eq_ok_iff.mp h
  rw [characters_eq_ok_iff hpoints]
  constructor
  · rintro rfl v
    rw [hscript, v.shown_pointsOf]
  · intro htext
    have hplain (v : InertView) : @scriptOf v.toView s o = .ok (v.shown (pointsOf text)) := by
      rw [htext, v.shown_pointsOf]
    have hproper : ∀ n ∈ pointsOf text, IsPoint n :=
      List.forall_mem_map.mpr fun c _ => .inl c.valid
    cases h.symm.trans (scriptPoints_of_shown hproper hplain)
    rfl

/-! ## Records -/

section

variable {ε α β : Type} (records : List Log.Record)

theorem records_tell_bind (more : List Log.Record) (k : Unit → Log.Logged Fault β) :
    ((Log.tell more >>= k).run.run records).2 = ((k ()).run.run (records ++ more)).2 := rfl

theorem records_lift_bind (f : ε → Fault) (x : Except ε α) (k : α → Log.Logged Fault β) :
    ((lift f x >>= k).run.run records).2
      = match x with
        | .ok a => ((k a).run.run records).2
        | .error _ => records := by
  cases x <;> rfl

theorem records_lift (f : ε → Fault) (x : Except ε α) :
    ((lift f x).run.run records).2 = records := by
  cases x <;> rfl

end

theorem each_makeScript (s : Setting) (o : Generate) :
    Each Script.RecordIsAlike fun v => (@makeScript v.toView s o).outcome.2 := by
  have hfixed (records : List Log.Record) : Each Script.RecordIsAlike fun _ => records :=
    .const fun r _ => Script.recordIsAlike_const r
  change Each _ fun v => ((@makeScript v.toView s o).run.run []).2
  simp only [makeScript, records_tell_bind, records_lift_bind, records_lift]
  cases (Settings.resolve s.tree s.environment o.settings o.overrides).result with
  | error fault => exact hfixed _
  | ok settings =>
    dsimp only
    cases Language.checkStyle settings.locatorStyle.plain with
    | error fault => exact hfixed _
    | ok style =>
      have hnamed (v : InertView) := Language.getNamed_standard style (@Locator.ofSelector v.toView)
        Locator.ofSelector settings.language
      simp only [hnamed]
      cases (Language.standard style Locator.ofSelector).getNamed settings.language with
      | error fault => exact hfixed _
      | ok found =>
        dsimp only [Except.map]
        cases Recording.load s.tree o.recording with
        | error fault => exact hfixed _
        | ok recording => exact (hfixed _).append (Script.each_records _ _ _ recording _)

theorem seenRecord_shown (level : Log.Level) (topic : String) (hpoints : ∀ n ∈ points, IsPoint n) :
    seenRecord ⟨level, topic, String.ofList (InertView.lower.shown points)⟩
        ⟨level, topic, String.ofList (InertView.upper.shown points)⟩
      = ⟨level, topic, String.ofList (escapeHalves points)⟩ := by
  have hseen : seen (InertView.lower.shown points) (InertView.upper.shown points) = points :=
    seen_viewed hpoints
  simp only [seenRecord, String.toList_ofList, hseen]

/-- What is recorded while a script is made is what every inert view records, with the halves in it
by their numbers. -/
theorem makingRecords_shown (s : Setting) (o : Generate) :
    ∃ records : List (Log.Level × String × List Nat),
      (∀ v : InertView, (@makeScript v.toView s o).outcome.2
          = records.map fun r => ⟨r.1, r.2.1, String.ofList (v.shown r.2.2)⟩)
        ∧ makingRecords s o
          = records.map fun r => ⟨r.1, r.2.1, String.ofList (escapeHalves r.2.2)⟩ := by
  obtain ⟨families, halike, hfamilies⟩ := each_makeScript s o
  have hlower : (@makeScript .lower s o).outcome.2 = families.map fun r => r .lower :=
    hfamilies .lower
  have hupper : (@makeScript .upper s o).outcome.2 = families.map fun r => r .upper :=
    hfamilies .upper
  simp only [makingRecords, hlower, hupper, hfamilies]
  clear hlower hupper hfamilies
  induction families with
  | nil => exact ⟨[], fun _ => rfl, rfl⟩
  | cons r families ih =>
    obtain ⟨⟨level, topic, points, hpoints, hr⟩, hothers⟩ := List.forall_mem_cons.mp halike
    obtain ⟨records, hshown, hmade⟩ := ih hothers
    refine ⟨(level, topic, points) :: records, fun v => ?_, ?_⟩
    · rw [List.map_cons, List.map_cons, hr, hshown]
    · rw [List.map_cons, List.map_cons, List.map_cons, List.zipWith_cons_cons, hmade, hr, hr,
        seenRecord_shown level topic hpoints]

end Retrace.Command
