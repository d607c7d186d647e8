import Retrace.Proofs.Settings.Layering

/-!
# The value of each setting

The layers are looked at from the last to the first: an override, the variable of the
environment, the entry of the file and the default. The first one that gives a setting
a value decides it, whatever the other settings are given.
-/

namespace Retrace.Settings

open Files

variable {t : Tree} {path : Option Path} {p : Path} {entries : List (Datum × Datum)}
  {env : Environment} {overrides : Overrides} {f : Field} {d : Datum}

/-- The entries that are found in the file, and the path they are found under. No file
and an empty file have none. -/
inductive Provides (t : Tree) (path : Option Path) : Path → List (Datum × Datum) → Prop
  | absent (h : fileToRead t path = none) : Provides t path defaultFile []
  | empty {p : Path} (h : fileToRead t path = some p) (hd : readDocument t p = .ok .none) :
    Provides t path p []
  | mapping {p : Path} {content : Datum} {entries : List (Datum × Datum)}
    (h : fileToRead t path = some p) (hd : readDocument t p = .ok content)
    (he : content.entries? = some entries) : Provides t path p entries

/-! ## What each layer gives -/

/-- The last override of a setting that is not nothing. -/
def IsOverride (overrides : Overrides) (f : Field) (d : Datum) : Prop :=
  IsLast f.name (· ≠ .none) overrides d

/-- What a setting is given by its variable, if that is set to a text it can be read from. -/
def IsInEnvironment (env : Environment) (f : Field) (d : Datum) : Prop :=
  ∃ name text, f.variableName? = some name ∧ env.lookup name = some text ∧ f.Reads text d

/-- The last entry under the name of a setting with a value that the setting may hold. A
mapping has at most one entry under a name. -/
def IsInFile (entries : List (Datum × Datum)) (f : Field) (d : Datum) : Prop :=
  IsLast (.text f.name) f.Holds entries d

/-- The value that a setting gets: it is given by a layer, and by none that prevails over it. -/
inductive Resolved (entries : List (Datum × Datum)) (env : Environment) (overrides : Overrides)
    (f : Field) : Datum → Prop
  | override {d : Datum} (h : IsOverride overrides f d) : Resolved entries env overrides f d
  | environment {d : Datum} (ho : ∀ d, ¬ IsOverride overrides f d) (h : IsInEnvironment env f d) :
    Resolved entries env overrides f d
  | file {d : Datum} (ho : ∀ d, ¬ IsOverride overrides f d) (hv : ∀ d, ¬ IsInEnvironment env f d)
    (h : IsInFile entries f d) : Resolved entries env overrides f d
  | default (ho : ∀ d, ¬ IsOverride overrides f d) (hv : ∀ d, ¬ IsInEnvironment env f d)
    (hf : ∀ d, ¬ IsInFile entries f d) :
    Resolved entries env overrides f (({} : Settings).get f)

theorem latest_overridden?_eq_some_iff :
    latest f.overridden? overrides = some d ↔ IsOverride overrides f d :=
  latest_eq_some_iff_isLast overridden?_eq_some_iff

theorem latest_given?_eq_some_iff : latest f.given? entries = some d ↔ IsInFile entries f d :=
  latest_eq_some_iff_isLast given?_eq_some_iff

theorem latest_told?_eq_some_iff :
    latest (f.told? env) knownVariables = some d ↔ IsInEnvironment env f d := by
  rw [latest_told?, Option.bind_eq_some_iff]
  constructor
  · rintro ⟨text, htext, hread⟩
    obtain ⟨name, hname, hset⟩ := Option.bind_eq_some_iff.mp htext
    exact ⟨name, text, hname, hset, (Field.read_eq_some_iff hname).mp hread⟩
  · rintro ⟨name, text, hname, hset, hreads⟩
    exact ⟨text, Option.bind_eq_some_iff.mpr ⟨name, hname, hset⟩,
      (Field.read_eq_some_iff hname).mpr hreads⟩

theorem eq_none_of_iff {o : Option Datum} {P : Datum → Prop} (h : ∀ {d}, o = some d ↔ P d)
    (hP : ∀ d, ¬ P d) : o = none :=
  Option.eq_none_iff_forall_ne_some.mpr fun d hd => hP d (h.mp hd)

theorem not_of_eq_none {o : Option Datum} {P : Datum → Prop} (h : ∀ {d}, o = some d ↔ P d)
    (ho : o = none) (d : Datum) : ¬ P d := by
  intro hd
  rw [h.mpr hd] at ho
  cases ho

theorem resolved_layers :
    Resolved entries env overrides f
      ((latest f.overridden? overrides).getD ((latest (f.told? env) knownVariables).getD
        ((latest f.given? entries).getD (({} : Settings).get f)))) := by
  cases ho : latest f.overridden? overrides with
  | some d => exact .override (latest_overridden?_eq_some_iff.mp ho)
  | none =>
    have hno := not_of_eq_none latest_overridden?_eq_some_iff ho
    cases hv : latest (f.told? env) knownVariables with
    | some d => exact .environment hno (latest_told?_eq_some_iff.mp hv)
    | none =>
      have hnv := not_of_eq_none latest_told?_eq_some_iff hv
      cases hf : latest f.given? entries with
      | some d => exact .file hno hnv (latest_given?_eq_some_iff.mp hf)
      | none => exact .default hno hnv (not_of_eq_none latest_given?_eq_some_iff hf)

/-- No two values are resolved for one setting. -/
theorem Resolved.eq (h : Resolved entries env overrides f d) :
    (latest f.overridden? overrides).getD ((latest (f.told? env) knownVariables).getD
      ((latest f.given? entries).getD (({} : Settings).get f))) = d := by
  cases h with
  | override h =>
    rw [latest_overridden?_eq_some_iff.mpr h]
    rfl
  | environment ho h =>
    rw [eq_none_of_iff latest_overridden?_eq_some_iff ho, latest_told?_eq_some_iff.mpr h]
    rfl
  | file ho hv h =>
    rw [eq_none_of_iff latest_overridden?_eq_some_iff ho,
      eq_none_of_iff latest_told?_eq_some_iff hv, latest_given?_eq_some_iff.mpr h]
    rfl
  | default ho hv hf =>
    rw [eq_none_of_iff latest_overridden?_eq_some_iff ho,
      eq_none_of_iff latest_told?_eq_some_iff hv, eq_none_of_iff latest_given?_eq_some_iff hf]
    rfl

/-! ## All layers -/

theorem applyFile_of_readDocument {content : Datum} (hd : readDocument t p = .ok content)
    (s : Settings) : applyFile t p s = applyContent p s content := by
  simp only [applyFile, hd]
  rfl

theorem applyContent_of_entries? {content : Datum} (he : content.entries? = some entries)
    (s : Settings) :
    applyContent p s content
      = .ok ((applyAll (applyEntry p) s entries).1,
        (applyAll (applyEntry p) s entries).2 ++ [loadedRecord p]) := by
  have hcontent : content.isNone = false := by
    rw [Field.isNone_eq_false_iff]
    rintro rfl
    cases he
  simp only [applyContent, hcontent, he]
  rfl

theorem filter_isWarning_map {α : Type} {warn : α → Log.Record}
    (h : ∀ a, (warn a).isWarning = true) (l : List α) :
    (l.map warn).filter Log.Record.isWarning = l.map warn := by
  rw [List.filter_eq_self]
  intro r hr
  obtain ⟨a, -, rfl⟩ := List.mem_map.mp hr
  exact h a

theorem isWarning_entryWarning (e : Datum × Datum) : (entryWarning p e).isWarning = true := by
  unfold entryWarning
  split <;> rfl

/-- What a file gives the settings, and what is said of its entries. -/
theorem fromFile_of_provides (h : Provides t path p entries) :
    ∃ s records, fromFile t path = .ok (s, records)
      ∧ (∀ f, s.get f = (latest f.given? entries).getD (({} : Settings).get f))
      ∧ records.filter Log.Record.isWarning
        = (entries.filter fun e => ¬ IsUsable e).map (entryWarning p) := by
  cases h with
  | absent h => exact ⟨{}, [], by rw [fromFile, h], fun f => rfl, rfl⟩
  | empty h hd =>
    refine ⟨{}, [], ?_, fun f => rfl, rfl⟩
    simp only [fromFile, h, applyFile_of_readDocument hd]
    rfl
  | mapping h hd he =>
    refine ⟨(applyAll (applyEntry p) {} entries).1,
      (applyAll (applyEntry p) {} entries).2 ++ [loadedRecord p], ?_, ?_, ?_⟩
    · simp only [fromFile, h, applyFile_of_readDocument hd, applyContent_of_entries? he]
    · intro f
      rw [applyAll_applyEntry]
      exact get_foldl (fun s e => get_applyEntry p f s e) {} entries
    · rw [applyAll_applyEntry, List.filter_append, filter_isWarning_map isWarning_entryWarning]
      exact List.append_nil _

theorem resolve_of_fromFile (env : Environment) {s : Settings} {records : List Log.Record}
    (hfile : fromFile t path = .ok (s, records))
    (hknown : ∀ o ∈ overrides, ∃ f : Field, o.1 = f.name) :
    ∃ s', resolve t env path overrides
        = ⟨.ok s', records ++ (knownVariables.filter (IsMisread env)).map (variableWarning env)
          ++ [Log.debug topic ("設定を確定しました: " ++ s'.text)]⟩
      ∧ ∀ f, s'.get f
        = (latest f.overridden? overrides).getD
          ((latest (f.told? env) knownVariables).getD (s.get f)) := by
  have hover := override_eq (applyEnvironment env s).1 hknown
  refine ⟨((applyEnvironment env s).1.override overrides).1, ?_, ?_⟩
  · simp only [resolve, hfile, hover]
    rw [applyEnvironment_eq]
  · intro f
    rw [hover, get_foldl (fun s o => get_override s f o), applyEnvironment_eq,
      get_foldl (fun s v => get_applyVariable env f s v)]

/-- Each setting is decided by the first layer that gives it a value, and just what a layer
cannot use is warned of: first the entries of the file, then the variables. -/
theorem resolve_layers (env : Environment) (hp : Provides t path p entries)
    (hknown : ∀ o ∈ overrides, ∃ f : Field, o.1 = f.name) :
    ∃ s, (resolve t env path overrides).result = .ok s
      ∧ (∀ f d, s.get f = d ↔ Resolved entries env overrides f d)
      ∧ (resolve t env path overrides).records.filter Log.Record.isWarning
        = (entries.filter fun e => ¬ IsUsable e).map (entryWarning p)
          ++ (knownVariables.filter (IsMisread env)).map (variableWarning env) := by
  obtain ⟨ofFile, records, hfile, hofFile, hrecords⟩ := fromFile_of_provides hp
  obtain ⟨s, hs, hget⟩ := resolve_of_fromFile env hfile hknown
  rw [hs]
  refine ⟨s, rfl, ?_, ?_⟩
  · intro f d
    rw [hget, hofFile]
    constructor
    · rintro rfl
      exact resolved_layers
    · exact Resolved.eq
  · have hvariables : ∀ v, (variableWarning env v).isWarning = true := fun v => rfl
    rw [List.filter_append, List.filter_append, hrecords, filter_isWarning_map hvariables]
    exact List.append_nil _

/-! ## A file, the environment and overrides together -/

theorem eq_of_texts {pairs : List (String × String)}
    (h : (entries.map fun e => (e.1.text?, e.2.text?)) = pairs.map fun q => (some q.1, some q.2)) :
    entries = pairs.map fun q => (.text q.1, .text q.2) := by
  induction entries generalizing pairs with
  | nil =>
    cases pairs with
    | nil => rfl
    | cons q pairs => cases h
  | cons e entries ih =>
    cases pairs with
    | nil => cases h
    | cons q pairs =>
      obtain ⟨hfirst, hrest⟩ := List.cons.inj h
      obtain ⟨hkey, hvalue⟩ := Prod.mk.inj hfirst
      rw [List.map_cons, ← ih hrest, ← Field.text?_eq_some_iff.mp hkey,
        ← Field.text?_eq_some_iff.mp hvalue]

theorem provides_of_texts (pairs : List (String × String)) (h : fileToRead t path = some p)
    (htexts : (((readDocument t p).toOption.bind Datum.entries?).map fun entries =>
        entries.map fun e => (e.1.text?, e.2.text?))
      = some (pairs.map fun q => (some q.1, some q.2))) :
    Provides t path p (pairs.map fun q => (.text q.1, .text q.2)) := by
  obtain ⟨entries, hentries, hpairs⟩ := Option.map_eq_some_iff.mp htexts
  obtain ⟨content, hcontent, he⟩ := Option.bind_eq_some_iff.mp hentries
  rw [← eq_of_texts hpairs]
  cases hd : readDocument t p with
  | error cause =>
    rw [hd] at hcontent
    cases hcontent
  | ok document =>
    rw [hd] at hcontent
    cases hcontent
    exact .mapping h hd he

/-- A working directory with a file of settings. -/
def exampleTree : Tree :=
  ⟨[(defaultFile, .file "language: python\nscreenshot: off\ncolour: blue\n".toUTF8.data.toList)]⟩

def exampleEnvironment : Environment :=
  [("RECGEN_SCREENSHOT", "on"), ("RECGEN_BROWSER", "opera"), ("RECGEN_VIEWPORT_WIDTH", " 1_280")]

def exampleOverrides : Overrides := [("channel", .text "chrome"), ("language", .none)]

theorem resolve_layers_example :
    ∃ s, (resolve exampleTree exampleEnvironment none exampleOverrides).result = .ok s
      ∧ s.get .language = .text "python" ∧ s.get .screenshot = .text "on"
      ∧ s.get .browser = .text "chromium" ∧ s.get .channel = .text "chrome"
      ∧ s.get .viewportWidth = .int 1280
      ∧ (resolve exampleTree exampleEnvironment none exampleOverrides).records.filter
          Log.Record.isWarning
        = [Log.warning topic "未知の設定キーを無視しました: colour",
          Log.warning topic "RECGEN_BROWSER の値が不正です: opera"] := by
  have hp : Provides exampleTree none defaultFile
      [(.text "language", .text "python"), (.text "screenshot", .text "off"),
        (.text "colour", .text "blue")] :=
    provides_of_texts [("language", "python"), ("screenshot", "off"), ("colour", "blue")]
      (by decide +kernel) (by decide +kernel)
  have hknown : ∀ o ∈ exampleOverrides, ∃ f : Field, o.1 = f.name := by
    intro o ho
    simp only [exampleOverrides, List.mem_cons, List.not_mem_nil, or_false] at ho
    obtain rfl | rfl := ho
    · exact ⟨.channel, rfl⟩
    · exact ⟨.language, rfl⟩
  obtain ⟨s, hs, hget, hrecords⟩ := resolve_layers exampleEnvironment hp hknown
  have hvalue (f : Field) := (hget f _).mpr resolved_layers
  refine ⟨s, hs, hvalue .language, hvalue .screenshot, hvalue .browser, hvalue .channel,
    hvalue .viewportWidth, ?_⟩
  rw [hrecords]
  decide +kernel

end Retrace.Settings
