import Retrace.Proofs.Settings.Resolution
import Retrace.Settings.Loading

/-!
# Settings stay sound

Whatever files and environments are loaded, one after the other and some of them in vain,
every setting holds a value that it may hold.
-/

namespace Retrace.Settings

open Files

variable {t : Tree} {path : Path} {env : Environment} {s : Settings} {l : Loader} {f : Field}

/-- Every setting holds a value that it may hold. -/
structure IsSound (s : Settings) : Prop where
  language : s.language.isText = true
  locatorStyle : s.locatorStyle = .text "locator" ∨ s.locatorStyle = .text "selector"
  headless : ∃ b, s.headless = .bool b
  screenshot : s.screenshot.isText = true
  browser : s.browser = .text "chromium" ∨ s.browser = .text "firefox" ∨ s.browser = .text "webkit"
  channel : s.channel = .none ∨ s.channel.isText = true
  viewportWidth : s.viewportWidth = .none ∨ ∃ n : Int, 0 < n ∧ s.viewportWidth = .int n
  viewportHeight : s.viewportHeight = .none ∨ ∃ n : Int, 0 < n ∧ s.viewportHeight = .int n
  saveStorage : s.saveStorage = .none ∨ s.saveStorage.isText = true

/-- The values of each setting, one setting at a time. -/
theorem holds_iff (f : Field) (d : Datum) :
    f.Holds d ↔
      match f with
      | .language | .screenshot => d.isText = true
      | .locatorStyle => d = .text "locator" ∨ d = .text "selector"
      | .headless => ∃ b, d = .bool b
      | .browser => d = .text "chromium" ∨ d = .text "firefox" ∨ d = .text "webkit"
      | .channel | .saveStorage => d = .none ∨ d.isText = true
      | .viewportWidth | .viewportHeight => d = .none ∨ ∃ n : Int, 0 < n ∧ d = .int n := by
  constructor
  · intro h
    cases h with
    | text hf hd =>
      simp only [List.mem_cons, List.not_mem_nil, or_false] at hf
      obtain rfl | rfl | rfl | rfl := hf <;> simp [hd]
    | locatorStyle hs => simpa using hs
    | browser hs => simpa using hs
    | headless b => exact ⟨b, rfl⟩
    | size hf hn =>
      simp only [List.mem_cons, List.not_mem_nil, or_false] at hf
      obtain rfl | rfl := hf <;> exact .inr ⟨_, hn, rfl⟩
    | nothing hf =>
      simp only [List.mem_cons, List.not_mem_nil, or_false] at hf
      obtain rfl | rfl | rfl | rfl := hf <;> exact .inl rfl
  · intro h
    cases f with
    | language | screenshot => exact .text (by simp) h
    | locatorStyle => obtain rfl | rfl := h <;> exact .locatorStyle (by simp)
    | headless =>
      obtain ⟨b, rfl⟩ := h
      exact .headless b
    | browser => obtain rfl | rfl | rfl := h <;> exact .browser (by simp)
    | channel | saveStorage =>
      obtain rfl | hd := h
      · exact .nothing (by simp)
      · exact .text (by simp) hd
    | viewportWidth | viewportHeight =>
      obtain rfl | ⟨n, hn, rfl⟩ := h
      · exact .nothing (by simp)
      · exact .size (by simp) hn

theorem isSound_iff : IsSound s ↔ ∀ f : Field, f.Holds (s.get f) := by
  constructor
  · intro h f
    rw [holds_iff]
    cases f with
    | language => exact h.language
    | locatorStyle => exact h.locatorStyle
    | headless => exact h.headless
    | screenshot => exact h.screenshot
    | browser => exact h.browser
    | channel => exact h.channel
    | viewportWidth => exact h.viewportWidth
    | viewportHeight => exact h.viewportHeight
    | saveStorage => exact h.saveStorage
  · intro h
    constructor
    · exact (holds_iff .language _).mp (h _)
    · exact (holds_iff .locatorStyle _).mp (h _)
    · exact (holds_iff .headless _).mp (h _)
    · exact (holds_iff .screenshot _).mp (h _)
    · exact (holds_iff .browser _).mp (h _)
    · exact (holds_iff .channel _).mp (h _)
    · exact (holds_iff .viewportWidth _).mp (h _)
    · exact (holds_iff .viewportHeight _).mp (h _)
    · exact (holds_iff .saveStorage _).mp (h _)

/-! ## What a step leaves behind -/

theorem run_bind_of_ok {α β : Type} {x : Loading α} {k : α → Loading β} {a : α} {after : Loader}
    (h : x.run l = (.ok a, after)) : (x >>= k).run l = (k a).run after := by
  rw [ExceptT.run_bind]
  simp only [bind, StateT.bind, h]

theorem run_forM_adopt {α : Type} (change : α → Settings → Settings × List Log.Record)
    (items : List α) (l : Loader) :
    (items.forM fun a => adopt (change a)).run l
      = (.ok (), ⟨(applyAll change l.settings items).1,
          l.records ++ (applyAll change l.settings items).2⟩) := by
  induction items generalizing l with
  | nil =>
    rw [applyAll, List.append_nil]
    rfl
  | cons a items ih =>
    refine (ih _).trans ?_
    simp only [applyAll, List.append_assoc]

theorem run_loadContent (path : Path) (content : Datum) (l : Loader) :
    (loadContent path content).run l =
      match applyContent path l.settings content with
      | .ok (s, records) => (.ok (), ⟨s, l.records ++ records⟩)
      | .error fault => (.error fault, l) := by
  unfold loadContent applyContent
  by_cases hempty : content.isNone = true
  · simp only [hempty, if_true, List.append_nil]
    rfl
  · simp only [hempty]
    cases content.entries? with
    | none => rfl
    | some entries =>
      refine (run_bind_of_ok (run_forM_adopt (applyEntry path) entries l)).trans ?_
      have hrecords := List.append_assoc l.records
        (applyAll (applyEntry path) l.settings entries).2 [loadedRecord path]
      exact congrArg (fun records => (Except.ok (), Loader.mk _ records)) hrecords

/-- A file is loaded as a whole, or it changes nothing. -/
theorem run_loadFile (t : Tree) (path : Path) (l : Loader) :
    (loadFile t path).run l =
      match applyFile t path l.settings with
      | .ok (s, records) => (.ok (), ⟨s, l.records ++ records⟩)
      | .error fault => (.error fault, l) := by
  cases hd : readDocument t path with
  | error cause =>
    simp only [loadFile, applyFile, hd]
    rfl
  | ok content =>
    rw [applyFile_of_readDocument hd, ← run_loadContent]
    simp only [loadFile, hd]
    rfl

theorem run_loadEnvironment (env : Environment) (l : Loader) :
    (loadEnvironment env).run l
      = (.ok (), ⟨(applyEnvironment env l.settings).1,
          l.records ++ (applyEnvironment env l.settings).2⟩) :=
  run_forM_adopt (applyVariable env) knownVariables l

/-! ## Soundness is kept -/

theorem isSound_default : IsSound {} := isSound_iff.mpr Field.holds_default

/-- Settings stay sound if they get only values that they may hold. -/
theorem isSound_of_gives {after : Settings} {gives : Field → Option Datum} (h : IsSound s)
    (hget : ∀ f, after.get f = (gives f).getD (s.get f))
    (hgives : ∀ f d, gives f = some d → f.Holds d) : IsSound after := by
  rw [isSound_iff] at *
  intro f
  rw [hget]
  cases hgiven : gives f with
  | none => exact h f
  | some d => exact hgives f d hgiven

theorem isSound_applyEntry (h : IsSound s) (e : Datum × Datum) :
    IsSound (applyEntry path e s).1 := by
  apply isSound_of_gives h fun f => get_applyEntry path f s e
  intro f d hgiven
  exact (given?_eq_some_iff.mp hgiven).2

theorem isSound_applyVariable (h : IsSound s) {v : String × Field} (hv : v ∈ knownVariables) :
    IsSound (applyVariable env v s).1 := by
  apply isSound_of_gives h fun f => get_applyVariable env f s v
  intro f d htold
  obtain ⟨name, g⟩ := v
  rw [Field.told?] at htold
  split at htold
  · next hgf =>
    subst hgf
    obtain ⟨text, -, hread⟩ := Option.bind_eq_some_iff.mp htold
    exact ((Field.read_eq_some_iff (Field.mem_knownVariables_iff.mp hv)).mp hread).holds
  · cases htold

theorem isSound_applyAll {α : Type} {change : α → Settings → Settings × List Log.Record}
    {items : List α} (h : IsSound s)
    (hchange : ∀ a ∈ items, ∀ s, IsSound s → IsSound (change a s).1) :
    IsSound (applyAll change s items).1 := by
  induction items generalizing s with
  | nil => exact h
  | cons a items ih =>
    have hfirst := hchange a List.mem_cons_self s h
    exact ih hfirst fun b hb => hchange b (List.mem_cons_of_mem a hb)

theorem isSound_applyFile {after : Settings} {records : List Log.Record} (h : IsSound s)
    (hfile : applyFile t path s = .ok (after, records)) : IsSound after := by
  cases hd : readDocument t path with
  | error cause =>
    simp only [applyFile, hd] at hfile
    cases hfile
  | ok content =>
    rw [applyFile_of_readDocument hd, applyContent] at hfile
    split at hfile
    · cases hfile
      exact h
    · split at hfile
      · next entries _ =>
        cases hfile
        exact isSound_applyAll h fun e _ s hs => isSound_applyEntry hs e
      · cases hfile

/-- A step keeps the settings sound, and if it fails, it keeps them as they are. -/
theorem isSound_after (h : IsSound l.settings) (step : Step) : IsSound (l.after step).settings := by
  cases step with
  | file t path =>
    rw [Loader.after, Step.load, run_loadFile]
    cases hfile : applyFile t path l.settings with
    | ok result => exact isSound_applyFile h hfile
    | error fault => exact h
  | environment env =>
    rw [Loader.after, Step.load, run_loadEnvironment]
    exact isSound_applyAll h fun v hv s hs => isSound_applyVariable hs hv

theorem isSound_afterAll (h : IsSound l.settings) (steps : List Step) :
    IsSound (l.afterAll steps).settings := by
  induction steps generalizing l with
  | nil => exact h
  | cons step steps ih => exact ih (isSound_after h step)

/-! ## The header -/

theorem browserName_of_isSound (h : IsSound s) :
    ∃ engine ∈ ["chromium", "firefox", "webkit"],
      s.headerOptions.browserName = .text engine := by
  obtain hengine | hengine | hengine := h.browser
  · exact ⟨"chromium", by simp, hengine⟩
  · exact ⟨"firefox", by simp, hengine⟩
  · exact ⟨"webkit", by simp, hengine⟩

theorem viewport_of_isSound (h : IsSound s) :
    s.headerOptions.viewport = .none
      ∨ ∃ width height : Int, 0 < width ∧ 0 < height
        ∧ s.headerOptions.viewport = .tuple [.int width, .int height] := by
  simp only [headerOptions, viewport]
  obtain hwidth | ⟨width, hpositive, hwidth⟩ := h.viewportWidth
  · exact .inl (by simp [hwidth, Datum.isNone])
  · obtain hheight | ⟨height, hpositive', hheight⟩ := h.viewportHeight
    · exact .inl (by simp [hheight, Datum.isNone])
    · exact .inr ⟨width, height, hpositive, hpositive', by simp [hwidth, hheight, Datum.isNone]⟩

/-- Whatever has been loaded, every setting is of its kind, a file that cannot be loaded
changes nothing, and the header gets an engine that there is and a viewport of positive
sizes if it gets one. -/
theorem loadAll_sound (steps : List Step) :
    IsSound (loadAll steps).settings
      ∧ (∀ t path, (∃ l, (loadFile t path).run (loadAll steps) = (.ok (), l))
        ∨ ∃ fault, (loadFile t path).run (loadAll steps) = (.error fault, loadAll steps))
      ∧ (∃ engine ∈ ["chromium", "firefox", "webkit"],
        (loadAll steps).settings.headerOptions.browserName = .text engine)
      ∧ ((loadAll steps).settings.headerOptions.viewport = .none
        ∨ ∃ width height : Int, 0 < width ∧ 0 < height
          ∧ (loadAll steps).settings.headerOptions.viewport
            = .tuple [.int width, .int height]) := by
  have hsound : IsSound (loadAll steps).settings := isSound_afterAll isSound_default steps
  refine ⟨hsound, ?_, browserName_of_isSound hsound, viewport_of_isSound hsound⟩
  intro t path
  rw [run_loadFile]
  cases applyFile t path (loadAll steps).settings with
  | ok result => exact .inl ⟨_, rfl⟩
  | error fault => exact .inr ⟨fault, rfl⟩

end Retrace.Settings
