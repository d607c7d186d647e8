import Retrace.Proofs.Command.Frame
import Retrace.Proofs.Language.Registration
import Retrace.Proofs.Script.Reported
import Retrace.Proofs.Settings.Layering

/-!
# Faults that escape

A run that generates a script should succeed or fail with a message. Three faults escape
instead: what the loader of a document does not expect of its values, modifier keys that cannot
be looked through, and whatever goes wrong once the script is complete. Then it may hold half a
surrogate pair, which can be neither printed nor written, and the file may be one that cannot be
written. A path that cannot be one ends a run before it begins.
-/

namespace Retrace.Command

open Files Result

variable {s : Setting} {isVerbose : Bool} {o : Generate} {words : List String} {fault : Fault}

/-! ## Scripts without records -/

/-- The settings of a script and its generator. -/
def prepare (adapter : Script.Adapter) (s : Setting) (o : Generate) :
    Except Fault (Settings × Script.Generator) := do
  let settings ← (Settings.resolve s.tree s.environment o.settings o.overrides).result.mapError
    .settings
  let style ← (Language.checkStyle settings.locatorStyle.plain).mapError .language
  let (_, g) ← ((Language.standard style adapter).getNamed settings.language).mapError .language
  return (settings, g)

/-- The script that a command line asks for as a view shows it, whatever is recorded while it is
made. -/
def scriptOf [Text.View] (s : Setting) (o : Generate) : Except Fault (List Char) := do
  let (settings, g) ← prepare Locator.ofSelector s o
  let recording ← (Recording.load s.tree o.recording).mapError .recording
  let saveStorage := settings.saveStorage.viewed.text?
  (g.script recording settings.headerOptions saveStorage).mapError .script

section

variable {ε α β : Type} (records : List Log.Record)

theorem result_tell_bind (more : List Log.Record) (k : Unit → Log.Logged Fault β) :
    ((Log.tell more >>= k).run.run records).1 = ((k ()).run.run (records ++ more)).1 := rfl

theorem result_lift_bind (f : ε → Fault) (x : Except ε α) (k : α → Log.Logged Fault β) :
    ((lift f x >>= k).run.run records).1
      = x.mapError f >>= fun a => ((k a).run.run records).1 := by
  cases x <;> rfl

theorem result_lift (f : ε → Fault) (x : Except ε α) :
    ((lift f x).run.run records).1 = x.mapError f := by
  cases x <;> rfl

end

theorem outcome_makeScript [Text.View] (s : Setting) (o : Generate) :
    (makeScript s o).outcome.1 = scriptOf s o := by
  change ((makeScript s o).run.run []).1 = _
  simp only [makeScript, result_tell_bind, result_lift_bind, result_lift, scriptOf, prepare,
    bind_assoc, pure_bind]

theorem scriptPoints_eq (s : Setting) (o : Generate) :
    scriptPoints s o
      = do
        let lower ← @scriptOf .lower s o
        let upper ← @scriptOf .upper s o
        return Text.seen lower upper := by
  rw [scriptPoints, @outcome_makeScript .lower, @outcome_makeScript .upper]

/-- Settings and generators are found without a look at a selector. -/
theorem prepare_eq (a b : Script.Adapter) (s : Setting) (o : Generate) :
    prepare a s o = (prepare b s o).map fun prepared =>
      (prepared.1, ⟨prepared.2.language, prepared.2.style, a⟩) := by
  unfold prepare
  cases (Settings.resolve s.tree s.environment o.settings o.overrides).result with
  | error fault => rfl
  | ok settings =>
    dsimp only [Except.mapError, bind, Except.bind]
    cases Language.checkStyle settings.locatorStyle.plain with
    | error fault => rfl
    | ok style =>
      dsimp only
      rw [Language.getNamed_standard style a b]
      cases (Language.standard style b).getNamed settings.language <;> rfl

/-! ## Faults that are not reported -/

/-- A value that the text of a document describes, but that the loader does not expect. -/
def IsUnexpected (cause : Document.Cause) : Prop :=
  ∃ text fault, cause = .yaml text fault ∧ fault.isExpected = false

/-- The settings of a command line are found, and so is its generator. -/
def IsPrepared (s : Setting) (o : Generate) : Prop :=
  ∀ adapter, ∃ prepared, prepare adapter s o = .ok prepared

theorem isPrepared_of_prepare {adapter : Script.Adapter} {prepared : Settings × Script.Generator}
    (h : prepare adapter s o = .ok prepared) : IsPrepared s o := by
  intro other
  rw [prepare_eq other adapter, h]
  exact ⟨_, rfl⟩

/-- The faults of making a script that are not reported. -/
inductive Unreported (s : Setting) (o : Generate) : Fault → Prop
  | settings {path : Path} {cause : Document.Cause} (hcause : IsUnexpected cause)
    (h : (Settings.resolve s.tree s.environment o.settings o.overrides).result
      = .error (.document path cause)) :
    Unreported s o (.settings (.document path cause))
  | recording {path : Path} {cause : Document.Cause} (hcause : IsUnexpected cause)
    (hprepared : IsPrepared s o)
    (h : Recording.load s.tree o.recording = .error (.document path cause)) :
    Unreported s o (.recording (.document path cause))
  | keys {keys : Modifier.Fault} (hprepared : IsPrepared s o)
    (h : Recording.load s.tree o.recording = .error (.modifiers keys)) :
    Unreported s o (.recording (.modifiers keys))

theorem ofDocumentIsReported_eq_false_iff (cause : Document.Cause) :
    Fault.ofDocumentIsReported cause = false ↔ IsUnexpected cause := by
  constructor
  · intro h
    cases cause with
    | yaml text fault => exact ⟨text, fault, rfl, h⟩
    | unreadable => cases h
    | encoding => cases h
    | json => cases h
  · rintro ⟨text, fault, rfl, h⟩
    exact h

theorem exists_field_of_mem_overrides (o : Generate) :
    ∀ p ∈ o.overrides, ∃ f : Settings.Field, p.1 = f.name := by
  simp only [Generate.overrides, List.forall_mem_cons, List.not_mem_nil]
  exact ⟨⟨.language, rfl⟩, ⟨.locatorStyle, rfl⟩, ⟨.saveStorage, rfl⟩, ⟨.headless, rfl⟩, nofun⟩

theorem failsOnly_fromFile (t : Tree) (path : Option Path) :
    FailsOnly (fun fault => ∀ name, fault ≠ .unknownField name) (Settings.fromFile t path) := by
  unfold Settings.fromFile
  split
  · refine .bind (.mapError fun cause _ name => nofun) ?_
    intro content _
    unfold Settings.applyContent
    split
    · exact .ok _
    · split
      · exact .ok _
      · exact .error nofun
  · exact .ok _

/-- Settings fail for their file only: the names that a command line overrides are known. -/
theorem failsOnly_resolve (s : Setting) (o : Generate) :
    FailsOnly (fun fault => ∀ name, fault ≠ .unknownField name)
      (Settings.resolve s.tree s.environment o.settings o.overrides).result := by
  unfold Settings.resolve
  cases hfile : Settings.fromFile s.tree o.settings with
  | error fault => exact .error (failsOnly_fromFile s.tree o.settings fault hfile)
  | ok layers =>
    obtain ⟨ofFile, records⟩ := layers
    dsimp only
    rw [Settings.override_eq _ (exists_field_of_mem_overrides o)]
    exact .ok _

theorem failsOnly_prepare (adapter : Script.Adapter) (s : Setting) (o : Generate) :
    FailsOnly (fun fault => fault.isReported = false → Unreported s o fault)
      (prepare adapter s o) := by
  refine .bind (.mapError ?_) fun settings _ => .bind (.mapError ?_) fun style _ =>
    .bind (.mapError ?_) fun found _ => .ok _
  · intro fault hresolve hunreported
    cases fault with
    | document path cause =>
      exact .settings ((ofDocumentIsReported_eq_false_iff cause).mp hunreported) hresolve
    | notAMapping path => cases hunreported
    | unknownField name => exact absurd rfl (failsOnly_resolve s o _ hresolve name)
  · unfold Language.checkStyle
    split
    · exact .ok _
    · exact .error nofun
  · unfold Language.Registry.getNamed
    split
    · exact .error nofun
    · unfold Language.Registry.get
      split
      · exact .ok _
      · exact .error nofun

theorem failsOnly_scriptOf [Text.View] (s : Setting) (o : Generate) :
    FailsOnly (fun fault => fault.isReported = false → Unreported s o fault) (scriptOf s o) := by
  apply FailsOnly.bind (failsOnly_prepare _ s o)
  rintro ⟨settings, g⟩ hprepare
  refine .bind (.mapError ?_) fun recording _ => .mapError ?_
  · intro fault hload hunreported
    have hprepared := isPrepared_of_prepare hprepare
    cases fault with
    | document path cause =>
      exact .recording ((ofDocumentIsReported_eq_false_iff cause).mp hunreported) hprepared hload
    | modifiers keys => exact .keys hprepared hload
    | notAList => cases hunreported
    | unnamed => cases hunreported
    | unknownKind => cases hunreported
    | invalid => cases hunreported
  · intro fault hscript hunreported
    have hreported := Script.failsOnly_script g recording settings _ fault hscript
    cases hunreported.symm.trans hreported

/-- In every view, making a script ends with such a fault. -/
theorem Unreported.scriptOf [Text.View] (h : Unreported s o fault) :
    scriptOf s o = .error fault := by
  cases h with
  | settings hcause h =>
    rw [Command.scriptOf, prepare, h]
    rfl
  | recording hcause hprepared h =>
    obtain ⟨prepared, hprepare⟩ := hprepared Locator.ofSelector
    rw [Command.scriptOf, hprepare, h]
    rfl
  | keys hprepared h =>
    obtain ⟨prepared, hprepare⟩ := hprepared Locator.ofSelector
    rw [Command.scriptOf, hprepare, h]
    rfl

theorem Unreported.isReported (h : Unreported s o fault) : fault.isReported = false := by
  cases h with
  | settings hcause => exact (ofDocumentIsReported_eq_false_iff _).mpr hcause
  | recording hcause => exact (ofDocumentIsReported_eq_false_iff _).mpr hcause
  | keys => rfl

theorem unreported_iff :
    Unreported s o fault ↔ scriptPoints s o = .error fault ∧ fault.isReported = false := by
  constructor
  · intro h
    refine ⟨?_, h.isReported⟩
    rw [scriptPoints_eq, @Unreported.scriptOf _ _ _ .lower h]
    rfl
  · rintro ⟨h, hunreported⟩
    rw [scriptPoints_eq] at h
    cases hlower : @scriptOf .lower s o with
    | error other =>
      rw [hlower] at h
      cases h
      exact @failsOnly_scriptOf .lower s o fault hlower hunreported
    | ok lower =>
      rw [hlower] at h
      cases hupper : @scriptOf .upper s o with
      | error other =>
        rw [hupper] at h
        cases h
        exact @failsOnly_scriptOf .upper s o fault hupper hunreported
      | ok upper =>
        rw [hupper] at h
        cases h

/-! ## Writing -/

/-- Whether a file can be written does not depend on what is written. -/
theorem fault_writeFile (t : Tree) (p : Path) (a b : List Char) :
    (writeFile t p a).fault = (writeFile t p b).fault := by
  have hwrite (t : Tree) : (Change.single t (t.write p (Text.Utf8.encode a))).fault
      = (Change.single t (t.write p (Text.Utf8.encode b))).fault := by
    unfold Tree.write
    cases t.locate p with
    | error fault => rfl
    | ok l =>
      dsimp only [bind, Except.bind]
      split <;> rfl
  rw [writeFile, writeFile]
  cases hmake : (t.makeDirectories p.parent).fault with
  | some fault => rw [Change.next_of_some hmake, Change.next_of_some hmake]
  | none =>
    rw [Change.next_of_none hmake, Change.next_of_none hmake]
    exact hwrite _

/-! ## Runs -/

/-- What makes a fault escape from the run of a command line that asks for a script. -/
inductive Escapes (s : Setting) (o : Generate) : Fault → Prop
  | path {p : Path} (h : (Task.generate o).paths.find? Path.hasNull = some p) :
    Escapes s o (.file ⟨.nullCharacter, p⟩)
  | script {fault : Fault} (hpaths : (Task.generate o).paths.find? Path.hasNull = none)
    (h : Unreported s o fault) : Escapes s o fault
  | printing {points : List Nat} {fault : Text.Unencodable}
    (hpaths : (Task.generate o).paths.find? Path.hasNull = none)
    (h : scriptPoints s o = .ok points) (houtput : o.output = none)
    (htext : Text.characters (echo s.outputIsTerminal points) = .error fault) :
    Escapes s o (.encoding fault)
  | output {points : List Nat} {p : Path} {fault : Files.Fault}
    (hpaths : (Task.generate o).paths.find? Path.hasNull = none)
    (h : scriptPoints s o = .ok points) (houtput : o.output = some p)
    (hwrite : (writeFile s.tree p []).fault = some fault) : Escapes s o (.file fault)
  | encoding {points : List Nat} {p : Path} {fault : Text.Unencodable}
    (hpaths : (Task.generate o).paths.find? Path.hasNull = none)
    (h : scriptPoints s o = .ok points) (houtput : o.output = some p)
    (hwrite : (writeFile s.tree p []).fault = none)
    (htext : Text.characters points = .error fault) : Escapes s o (.encoding fault)

/-- A run that has succeeded, or failed with a message and changed nothing. -/
def EndsProperly (isVerbose : Bool) (s : Setting) (out : Outcome) : Prop :=
  out.exitCode = 0
    ∨ out.exitCode = 1 ∧ out.output = [] ∧ out.tree = s.tree
      ∧ ∃ records message, out.errors = recordLines isVerbose records ++ [report message]

/-- With paths that can be ones and a script that cannot be made, what escapes is a fault that is
not reported. -/
theorem escapes_iff_of_error {cause : Fault}
    (hpaths : (Task.generate o).paths.find? Path.hasNull = none)
    (hscript : scriptPoints s o = .error cause) :
    Escapes s o fault ↔ fault = cause ∧ fault.isReported = false := by
  constructor
  · intro h
    cases h with
    | path hnull =>
      rw [hpaths] at hnull
      cases hnull
    | script _ h =>
      obtain ⟨hfault, hunreported⟩ := unreported_iff.mp h
      rw [hscript] at hfault
      cases hfault
      exact ⟨rfl, hunreported⟩
    | printing _ h => cases hscript.symm.trans h
    | output _ h => cases hscript.symm.trans h
    | encoding _ h => cases hscript.symm.trans h
  · rintro ⟨rfl, hunreported⟩
    exact .script hpaths (unreported_iff.mpr ⟨hscript, hunreported⟩)

/-- A script that is made is printed, unless it cannot be encoded. -/
theorem escapes_iff_of_output_eq_none {points : List Nat}
    (hpaths : (Task.generate o).paths.find? Path.hasNull = none)
    (hscript : scriptPoints s o = .ok points) (houtput : o.output = none) :
    Escapes s o fault
      ↔ ∃ cause, Text.characters (echo s.outputIsTerminal points) = .error cause
        ∧ fault = .encoding cause := by
  constructor
  · intro h
    cases h with
    | path hnull =>
      rw [hpaths] at hnull
      cases hnull
    | script _ h => cases hscript.symm.trans (unreported_iff.mp h).1
    | printing _ h _ htext =>
      cases hscript.symm.trans h
      exact ⟨_, htext, rfl⟩
    | output _ _ hsome => cases houtput.symm.trans hsome
    | encoding _ _ hsome => cases houtput.symm.trans hsome
  · rintro ⟨cause, htext, rfl⟩
    exact .printing hpaths hscript houtput htext

/-- A script that is made is written, unless the file cannot be or the script cannot be encoded;
the file is first. -/
theorem escapes_iff_of_output_eq_some {points : List Nat} {p : Path}
    (hpaths : (Task.generate o).paths.find? Path.hasNull = none)
    (hscript : scriptPoints s o = .ok points) (houtput : o.output = some p) :
    Escapes s o fault
      ↔ (∃ cause, (writeFile s.tree p []).fault = some cause ∧ fault = .file cause)
        ∨ ∃ cause, (writeFile s.tree p []).fault = none
          ∧ Text.characters points = .error cause ∧ fault = .encoding cause := by
  constructor
  · intro h
    cases h with
    | path hnull =>
      rw [hpaths] at hnull
      cases hnull
    | script _ h => cases hscript.symm.trans (unreported_iff.mp h).1
    | printing _ _ hnone => cases houtput.symm.trans hnone
    | output _ _ hsome hwrite =>
      cases houtput.symm.trans hsome
      exact .inl ⟨_, hwrite, rfl⟩
    | encoding _ h hsome hwrite htext =>
      cases hscript.symm.trans h
      cases houtput.symm.trans hsome
      exact .inr ⟨_, hwrite, htext, rfl⟩
  · rintro (⟨cause, hwrite, rfl⟩ | ⟨cause, hwrite, htext, rfl⟩)
    · exact .output hpaths hscript houtput hwrite
    · exact .encoding hpaths hscript houtput hwrite htext

theorem Generated.escaped_iff {out : Outcome} (h : Generated isVerbose s o out)
    (hpaths : (Task.generate o).paths.find? Path.hasNull = none) (fault : Fault) :
    out.escaped = some fault ↔ Escapes s o fault := by
  cases h with
  | reported h hfault =>
    rw [escapes_iff_of_error hpaths h]
    constructor
    · nofun
    · rintro ⟨rfl, hunreported⟩
      cases hfault.symm.trans hunreported
  | escaped h hfault =>
    rw [escapes_iff_of_error hpaths h]
    constructor
    · rintro ⟨⟩
      exact ⟨rfl, hfault⟩
    · rintro ⟨rfl, -⟩
      rfl
  | unprintable h houtput htext =>
    rw [escapes_iff_of_output_eq_none hpaths h houtput, htext]
    constructor
    · rintro ⟨⟩
      exact ⟨_, rfl, rfl⟩
    · rintro ⟨cause, hcause, rfl⟩
      cases hcause
      rfl
  | printed h houtput htext =>
    rw [escapes_iff_of_output_eq_none hpaths h houtput, htext]
    constructor
    · nofun
    · rintro ⟨cause, hcause, -⟩
      cases hcause
  | unwritten h houtput hwrite =>
    have hfault := congrArg Change.fault hwrite
    rw [fault_writeFile _ _ _ []] at hfault
    rw [escapes_iff_of_output_eq_some hpaths h houtput, hfault]
    constructor
    · rintro ⟨⟩
      exact .inl ⟨_, rfl, rfl⟩
    · rintro (⟨cause, hcause, rfl⟩ | ⟨cause, hnone, -⟩)
      · cases hcause
        rfl
      · cases hnone
  | unencodable h houtput htext hwrite =>
    have hfault := congrArg Change.fault hwrite
    rw [escapes_iff_of_output_eq_some hpaths h houtput, hfault, htext]
    constructor
    · rintro ⟨⟩
      exact .inr ⟨_, rfl, rfl, rfl⟩
    · rintro (⟨cause, hsome, -⟩ | ⟨cause, -, hcause, rfl⟩)
      · cases hsome
      · cases hcause
        rfl
  | written h houtput htext hwrite =>
    have hfault := congrArg Change.fault hwrite
    rw [fault_writeFile _ _ _ []] at hfault
    rw [escapes_iff_of_output_eq_some hpaths h houtput, hfault, htext]
    constructor
    · nofun
    · rintro (⟨cause, hsome, -⟩ | ⟨cause, -, hcause, -⟩)
      · cases hsome
      · cases hcause

/-- How a run ends for its user: with a message and without any change, if it does not succeed. -/
theorem Generated.endsProperly {out : Outcome} (h : Generated isVerbose s o out)
    (hescaped : out.escaped = none) : EndsProperly isVerbose s out := by
  cases h with
  | reported =>
    rw [errorLine_report]
    exact .inr ⟨rfl, rfl, rfl, _, _, rfl⟩
  | escaped => cases hescaped
  | unprintable => cases hescaped
  | printed => exact .inl rfl
  | unwritten => cases hescaped
  | unencodable => cases hescaped
  | written => exact .inl rfl

theorem Generated.exitCode_of_escaped {out : Outcome} (h : Generated isVerbose s o out)
    (hescaped : out.escaped ≠ none) : out.exitCode = 1 ∧ out.output = [] := by
  cases h with
  | reported => exact absurd rfl hescaped
  | escaped => exact ⟨rfl, rfl⟩
  | unprintable => exact ⟨rfl, rfl⟩
  | printed => exact absurd rfl hescaped
  | unwritten => exact ⟨rfl, rfl⟩
  | unencodable => exact ⟨rfl, rfl⟩
  | written => exact absurd rfl hescaped

/-- An empty recording beside a directory. -/
def directorySetting : Setting where
  tree := ⟨[(⟨false, ["rec.json"]⟩, .file [91, 93]), (⟨false, ["out"]⟩, .directory)]⟩
  environment := []
  directory := ⟨true, ["work"]⟩

end Retrace.Command
