import Retrace.Settings.Layers

/-!
# What a setting may hold

The rules for the values of settings, one for each kind of setting, apart from the
layers that apply them. A file may give a setting just the values it may hold. A
variable of the environment gives a value by its text: the text itself, a choice,
a truth value or a size.
-/

namespace Retrace.Settings

namespace Field

/-- The values that a setting may hold. -/
inductive Holds : Field → Datum → Prop
  | text {f : Field} (hf : f ∈ [language, screenshot, channel, saveStorage]) {d : Datum}
    (hd : d.isText = true) : Holds f d
  | locatorStyle {s : String} (hs : s ∈ ["locator", "selector"]) : Holds locatorStyle (.text s)
  | browser {s : String} (hs : s ∈ ["chromium", "firefox", "webkit"]) : Holds browser (.text s)
  | headless (b : Bool) : Holds headless (.bool b)
  | size {f : Field} (hf : f ∈ [viewportWidth, viewportHeight]) {n : Int} (hn : 0 < n) :
    Holds f (.int n)
  | nothing {f : Field} (hf : f ∈ [channel, viewportWidth, viewportHeight, saveStorage]) :
    Holds f .none

theorem holds_default (f : Field) : f.Holds (({} : Settings).get f) := by
  cases f with
  | language => exact .text (by simp) rfl
  | locatorStyle => exact .locatorStyle (by simp)
  | headless => exact .headless true
  | screenshot => exact .text (by simp) rfl
  | browser => exact .browser (by simp)
  | channel => exact .nothing (by simp)
  | viewportWidth => exact .nothing (by simp)
  | viewportHeight => exact .nothing (by simp)
  | saveStorage => exact .nothing (by simp)

/-! ## Values in files -/

theorem isNone_iff (d : Datum) : d.isNone = true ↔ d = .none := by
  cases d <;> simp [Datum.isNone]

theorem isNone_eq_false_iff (d : Datum) : d.isNone = false ↔ d ≠ .none := by
  rw [← Bool.not_eq_true, isNone_iff]

theorem text?_eq_some_iff {d : Datum} {s : String} : d.text? = some s ↔ d = .text s := by
  cases d <;> simp [Datum.text?]

theorem isNone_of_isText {d : Datum} (h : d.isText = true) : d.isNone = false := by
  cases d <;> first | rfl | cases h

theorem isBoolean_iff (d : Datum) : isBoolean d = true ↔ ∃ b, d = .bool b := by
  cases d <;> simp [isBoolean]

theorem isPositive_iff (d : Datum) : isPositive d = true ↔ ∃ n : Int, 0 < n ∧ d = .int n := by
  cases d <;> simp [isPositive]

theorem isChosen_iff (choices : List String) (d : Datum) :
    (d.text?.map choices.contains).getD false = true ↔ ∃ s ∈ choices, d = .text s := by
  cases d <;> simp [Datum.text?]

theorem accepts_of_holds {f : Field} {d : Datum} (h : f.Holds d) : f.accepts d = true := by
  cases h with
  | text hf hd =>
    rw [accepts, isNone_of_isText hd, if_neg Bool.false_ne_true]
    simp only [List.mem_cons, List.not_mem_nil, or_false] at hf
    obtain rfl | rfl | rfl | rfl := hf <;> exact hd
  | locatorStyle hs => exact (isChosen_iff locatorStyles _).mpr ⟨_, hs, rfl⟩
  | browser hs => exact (isChosen_iff browsers _).mpr ⟨_, hs, rfl⟩
  | headless b => rfl
  | size hf hn =>
    simp only [List.mem_cons, List.not_mem_nil, or_false] at hf
    obtain rfl | rfl := hf <;> exact (isPositive_iff _).mpr ⟨_, hn, rfl⟩
  | nothing hf =>
    simp only [List.mem_cons, List.not_mem_nil, or_false] at hf
    obtain rfl | rfl | rfl | rfl := hf <;> rfl

theorem holds_none_of_isOptional {f : Field} (h : f.isOptional = true) : f.Holds .none := by
  cases f with
  | channel | viewportWidth | viewportHeight | saveStorage => exact .nothing (by simp)
  | _ => cases h

theorem holds_of_accepts {f : Field} {d : Datum} (h : f.accepts d = true) : f.Holds d := by
  unfold accepts at h
  split at h
  · next hnone =>
    rw [(isNone_iff d).mp hnone]
    exact holds_none_of_isOptional h
  · cases f with
    | language | screenshot | channel | saveStorage => exact .text (by simp) h
    | locatorStyle =>
      obtain ⟨s, hs, rfl⟩ := (isChosen_iff locatorStyles d).mp h
      exact .locatorStyle hs
    | browser =>
      obtain ⟨s, hs, rfl⟩ := (isChosen_iff browsers d).mp h
      exact .browser hs
    | headless =>
      obtain ⟨b, rfl⟩ := (isBoolean_iff d).mp h
      exact .headless b
    | viewportWidth | viewportHeight =>
      obtain ⟨n, hn, rfl⟩ := (isPositive_iff d).mp h
      exact .size (by simp) hn

/-- A file may give a setting just what it may hold. -/
theorem accepts_iff (f : Field) (d : Datum) : f.accepts d = true ↔ f.Holds d :=
  ⟨holds_of_accepts, accepts_of_holds⟩

instance (f : Field) (d : Datum) : Decidable (f.Holds d) := decidable_of_iff _ (accepts_iff f d)

/-! ## Texts of variables -/

/-- The variable of a setting. -/
def variableName? : Field → Option String
  | language => some "RECGEN_LANGUAGE"
  | locatorStyle => some "RECGEN_LOCATOR_STYLE"
  | headless => some "RECGEN_HEADLESS"
  | screenshot => some "RECGEN_SCREENSHOT"
  | browser => some "RECGEN_BROWSER"
  | channel => none
  | viewportWidth => some "RECGEN_VIEWPORT_WIDTH"
  | viewportHeight => some "RECGEN_VIEWPORT_HEIGHT"
  | saveStorage => some "RECGEN_SAVE_STORAGE"

/-- The value that the text of its variable gives a setting. -/
inductive Reads : Field → String → Datum → Prop
  | text {f : Field} (hf : f ∈ [language, screenshot, saveStorage]) (s : String) :
    Reads f s (.text s)
  | locatorStyle {s : String} (hs : s ∈ ["locator", "selector"]) : Reads locatorStyle s (.text s)
  | browser {s : String} (hs : s ∈ ["chromium", "firefox", "webkit"]) : Reads browser s (.text s)
  | headless (s : String) :
    Reads headless s
      (.bool (decide (String.ofList (Text.lower s.toList) ∈ ["true", "1", "yes"])))
  | size {f : Field} (hf : f ∈ [viewportWidth, viewportHeight]) {s : String} {n : Int}
    (hs : Numeral.readInteger s.toList = .ok n) (hn : 0 < n) : Reads f s (.int n)

theorem Reads.holds {f : Field} {s : String} {d : Datum} (h : Reads f s d) : f.Holds d := by
  cases h with
  | text hf s =>
    refine .text ?_ (Datum.isText_text s)
    simp only [List.mem_cons, List.not_mem_nil, or_false] at hf
    obtain rfl | rfl | rfl := hf <;> simp
  | locatorStyle hs => exact .locatorStyle hs
  | browser hs => exact .browser hs
  | headless s => exact .headless _
  | size hf hs hn => exact .size hf hn

theorem Reads.isSome_variableName? {f : Field} {s : String} {d : Datum} (h : Reads f s d) :
    f.variableName?.isSome = true := by
  cases h with
  | text hf s =>
    simp only [List.mem_cons, List.not_mem_nil, or_false] at hf
    obtain rfl | rfl | rfl := hf <;> rfl
  | size hf hs hn =>
    simp only [List.mem_cons, List.not_mem_nil, or_false] at hf
    obtain rfl | rfl := hf <;> rfl
  | _ => rfl

theorem readSize_eq_some_iff {s : String} {n : Int} :
    readSize s = some n ↔ Numeral.readInteger s.toList = .ok n ∧ 0 < n := by
  unfold readSize
  cases Numeral.readInteger s.toList with
  | error fault => simp
  | ok m =>
    simp only [Except.ok.injEq]
    split
    · next hm =>
      constructor
      · rintro ⟨⟩
        exact ⟨rfl, hm⟩
      · rintro ⟨rfl, -⟩
        rfl
    · next hm =>
      constructor
      · rintro ⟨⟩
      · rintro ⟨rfl, hn⟩
        exact absurd hn hm

theorem readBoolean_eq (s : String) :
    readBoolean s = decide (String.ofList (Text.lower s.toList) ∈ ["true", "1", "yes"]) := by
  rw [readBoolean, trueWords, Bool.eq_iff_iff, List.contains_iff_mem, decide_eq_true_eq]

theorem read_of_reads {f : Field} {s : String} {d : Datum} (h : Reads f s d) :
    f.read s = some d := by
  cases h with
  | text hf s =>
    simp only [List.mem_cons, List.not_mem_nil, or_false] at hf
    obtain rfl | rfl | rfl := hf <;> rfl
  | locatorStyle hs => exact if_pos (List.contains_iff_mem.mpr hs)
  | browser hs => exact if_pos (List.contains_iff_mem.mpr hs)
  | headless s =>
    rw [← readBoolean_eq]
    rfl
  | size hf hs hn =>
    have hsize := readSize_eq_some_iff.mpr ⟨hs, hn⟩
    simp only [List.mem_cons, List.not_mem_nil, or_false] at hf
    obtain rfl | rfl := hf <;> exact congrArg (Option.map Datum.int) hsize

theorem reads_of_read {f : Field} {s name : String} {d : Datum} (hf : f.variableName? = some name)
    (h : f.read s = some d) : Reads f s d := by
  have hchosen (choices : List String)
      (hchoice : (if choices.contains s then some (Datum.text s) else none) = some d) :
      s ∈ choices ∧ d = .text s := by
    split at hchoice
    · next hs =>
      cases hchoice
      exact ⟨List.contains_iff_mem.mp hs, rfl⟩
    · cases hchoice
  cases f with
  | language | screenshot | saveStorage =>
    cases h
    exact .text (by simp) s
  | channel => cases hf
  | locatorStyle =>
    obtain ⟨hs, rfl⟩ := hchosen locatorStyles h
    exact .locatorStyle hs
  | browser =>
    obtain ⟨hs, rfl⟩ := hchosen browsers h
    exact .browser hs
  | headless =>
    cases h
    rw [readBoolean_eq]
    exact .headless s
  | viewportWidth | viewportHeight =>
    obtain ⟨n, hn, rfl⟩ := Option.map_eq_some_iff.mp h
    obtain ⟨hread, hpositive⟩ := readSize_eq_some_iff.mp hn
    exact .size (by simp) hread hpositive

/-- The variable of a setting is read by the rule for this setting. -/
theorem read_eq_some_iff {f : Field} {s name : String} {d : Datum}
    (hf : f.variableName? = some name) : f.read s = some d ↔ Reads f s d :=
  ⟨reads_of_read hf, read_of_reads⟩

/-- The text of a variable gives its setting a value. -/
def IsReadable (f : Field) (s : String) : Prop := ∃ d, f.Reads s d

theorem isReadable_iff (f : Field) (s : String) :
    f.IsReadable s ↔ f.variableName?.isSome = true ∧ (f.read s).isSome = true := by
  constructor
  · rintro ⟨d, h⟩
    exact ⟨h.isSome_variableName?, Option.isSome_iff_exists.mpr ⟨d, read_of_reads h⟩⟩
  · rintro ⟨hvariable, hread⟩
    obtain ⟨name, hf⟩ := Option.isSome_iff_exists.mp hvariable
    obtain ⟨d, hd⟩ := Option.isSome_iff_exists.mp hread
    exact ⟨d, reads_of_read hf hd⟩

instance (f : Field) (s : String) : Decidable (f.IsReadable s) :=
  decidable_of_iff' _ (isReadable_iff f s)

theorem mem_knownVariables_iff {name : String} {f : Field} :
    (name, f) ∈ knownVariables ↔ f.variableName? = some name := by
  cases f <;> simp [knownVariables, variableName?, eq_comm]

end Field

end Retrace.Settings
