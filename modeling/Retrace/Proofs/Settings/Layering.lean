import Retrace.Proofs.Settings.Fit

/-!
# Settings are resolved one by one

Each setting is decided by the first layer that gives it a value: the overrides,
its variable, the file, and at last its default. What the other settings are given
makes no difference. An entry of the file that cannot be used and a variable whose
text cannot be read have one warning each, and nothing else has.

Each layer is a run of steps that set at most one setting. So after a run a
setting holds what the last step that gives it something gives it.
-/

namespace Retrace.Settings

open Files

/-! ## The last value that is given -/

section

variable {α β : Type} {gives : α → Option β} {l : List α}

/-- What the last item that gives something gives. -/
def latest (gives : α → Option β) (l : List α) : Option β := l.reverse.findSome? gives

@[simp] theorem latest_nil : latest gives [] = none := rfl

theorem latest_cons (a : α) : latest gives (a :: l) = (latest gives l).or (gives a) := by
  simp [latest, List.findSome?_append]

theorem latest_eq_some_iff {b : β} :
    latest gives l = some b ↔ ∃ before a after, l = before ++ a :: after ∧ gives a = some b
      ∧ ∀ c ∈ after, gives c = none := by
  rw [latest, List.findSome?_eq_some_iff]
  constructor
  · rintro ⟨after, a, before, hl, ha, hafter⟩
    refine ⟨before.reverse, a, after.reverse, ?_, ha, ?_⟩
    · rw [← List.reverse_reverse l, hl]
      simp
    · intro c hc
      exact hafter c (List.mem_reverse.mp hc)
  · rintro ⟨before, a, after, rfl, ha, hafter⟩
    refine ⟨after.reverse, a, before.reverse, by simp, ha, ?_⟩
    intro c hc
    exact hafter c (List.mem_reverse.mp hc)

/-- The value of the last pair with a key whose value is fit. -/
def IsLast (key : α) (Fit : β → Prop) (l : List (α × β)) (b : β) : Prop :=
  Fit b ∧ ∃ before after, l = before ++ (key, b) :: after ∧ ∀ e ∈ after, e.1 = key → ¬ Fit e.2

theorem latest_eq_some_iff_isLast {gives : α × β → Option β} {key : α} {Fit : β → Prop}
    (h : ∀ {e b}, gives e = some b ↔ e = (key, b) ∧ Fit b) {l : List (α × β)} {b : β} :
    latest gives l = some b ↔ IsLast key Fit l b := by
  have hnone (e : α × β) : gives e = none ↔ (e.1 = key → ¬ Fit e.2) := by
    rw [Option.eq_none_iff_forall_ne_some]
    constructor
    · rintro hgives rfl hfit
      exact hgives e.2 (h.mpr ⟨rfl, hfit⟩)
    · intro hunfit value hvalue
      obtain ⟨rfl, hfit⟩ := h.mp hvalue
      exact hunfit rfl hfit
  rw [latest_eq_some_iff, IsLast]
  constructor
  · rintro ⟨before, e, after, rfl, he, hafter⟩
    obtain ⟨rfl, hfit⟩ := h.mp he
    exact ⟨hfit, before, after, rfl, fun c hc => (hnone c).mp (hafter c hc)⟩
  · rintro ⟨hfit, before, after, rfl, hafter⟩
    exact ⟨before, (key, b), after, rfl, h.mpr ⟨rfl, hfit⟩, fun c hc => (hnone c).mpr (hafter c hc)⟩

theorem get_set (s : Settings) (f g : Field) (d : Datum) :
    (s.set g d).get f = if g = f then d else s.get f := by
  split
  · next h => rw [h, get_set_same]
  · next h => exact get_set_other s d (Ne.symm h)

/-- After a run of steps a setting holds what was given to it last. -/
theorem get_foldl {step : Settings → α → Settings} {gives : α → Option Datum} {f : Field}
    (hstep : ∀ s a, (step s a).get f = (gives a).getD (s.get f)) (s : Settings) (l : List α) :
    (l.foldl step s).get f = (latest gives l).getD (s.get f) := by
  induction l generalizing s with
  | nil => rfl
  | cons a l ih =>
    rw [List.foldl_cons, ih, hstep, latest_cons]
    cases latest gives l <;> rfl

/-- Changes are made one after the other. If something is said just about the bad ones, then
it is said of each of them in turn. -/
theorem applyAll_eq {change : α → Settings → Settings × List Log.Record} {Bad : α → Prop}
    [DecidablePred Bad] {warn : α → Log.Record}
    (h : ∀ a ∈ l, ∀ s, (change a s).2 = if Bad a then [warn a] else []) (s : Settings) :
    applyAll change s l = (l.foldl (fun s a => (change a s).1) s, (l.filter Bad).map warn) := by
  induction l generalizing s with
  | nil => rfl
  | cons a l ih =>
    have hrest := ih fun b hb => h b (List.mem_cons_of_mem a hb)
    simp only [applyAll, hrest, h a List.mem_cons_self s, List.foldl_cons, List.filter_cons]
    by_cases hbad : Bad a <;> simp [hbad]

end

/-! ## The file -/

theorem ofName?_eq_some_iff {s : String} {f : Field} : Field.ofName? s = some f ↔ s = f.name := by
  constructor
  · intro h
    rw [Field.ofName?] at h
    have hfound := List.find?_some h
    exact (beq_iff_eq.mp hfound).symm
  · rintro rfl
    exact Field.ofName?_name f

theorem bind_ofName?_eq_some_iff {key : Datum} {f : Field} :
    key.text?.bind Field.ofName? = some f ↔ key = .text f.name := by
  simp only [Option.bind_eq_some_iff, ofName?_eq_some_iff, Field.text?_eq_some_iff]
  simp

/-- An entry of a file that gives a setting a value it may hold. -/
def IsUsable (e : Datum × Datum) : Prop := ∃ f : Field, e.1 = .text f.name ∧ f.Holds e.2

theorem isUsable_iff (e : Datum × Datum) :
    IsUsable e ↔ ∃ f ∈ Field.all, e.1.text? = some f.name ∧ f.Holds e.2 := by
  simp only [IsUsable, Field.text?_eq_some_iff, Field.mem_all, true_and]

instance : DecidablePred IsUsable := fun e => decidable_of_iff' _ (isUsable_iff e)

/-- What is said about an entry that cannot be used. -/
def entryWarning (path : Path) (e : Datum × Datum) : Log.Record :=
  match e.1.text?.bind Field.ofName? with
  | none => Log.warning topic ("未知の設定キーを無視しました: " ++ e.1.plain)
  | some f => Log.warning topic s!"{path.toString} の {f.name} の値が不正です: {e.2.shown}"

theorem applyEntry_of_holds {f : Field} {d : Datum} (h : f.Holds d) (path : Path) (s : Settings) :
    applyEntry path (.text f.name, d) s = (s.set f d, []) := by
  rw [applyEntry, bind_ofName?_eq_some_iff.mpr rfl]
  exact if_pos ((Field.accepts_iff f d).mpr h)

theorem applyEntry_of_not_isUsable {e : Datum × Datum} (h : ¬ IsUsable e) (path : Path)
    (s : Settings) : applyEntry path e s = (s, [entryWarning path e]) := by
  cases hkey : e.1.text?.bind Field.ofName? with
  | none => simp only [applyEntry, entryWarning, hkey]
  | some f =>
    have hrefused : ¬ f.accepts e.2 = true := by
      rw [Field.accepts_iff]
      intro hd
      exact h ⟨f, bind_ofName?_eq_some_iff.mp hkey, hd⟩
    simp only [applyEntry, entryWarning, hkey, if_neg hrefused]

/-- The value that an entry gives a setting. -/
def Field.given? (f : Field) (e : Datum × Datum) : Option Datum :=
  if e.1.text? = some f.name ∧ f.Holds e.2 then some e.2 else none

theorem given?_eq_some_iff {f : Field} {e : Datum × Datum} {d : Datum} :
    f.given? e = some d ↔ e = (.text f.name, d) ∧ f.Holds d := by
  obtain ⟨key, value⟩ := e
  simp only [Field.given?, Field.text?_eq_some_iff]
  constructor
  · intro h
    split at h
    · next hgiven =>
      cases h
      exact ⟨by rw [Field.text?_eq_some_iff.mp hgiven.1], hgiven.2⟩
    · cases h
  · rintro ⟨h, hd⟩
    cases h
    exact if_pos ⟨rfl, hd⟩

theorem given?_eq_none_of_not_isUsable {e : Datum × Datum} (h : ¬ IsUsable e) (f : Field) :
    f.given? e = none := by
  rw [Option.eq_none_iff_forall_ne_some]
  intro d hd
  obtain ⟨rfl, hholds⟩ := given?_eq_some_iff.mp hd
  exact h ⟨f, rfl, hholds⟩

theorem name_injective {f g : Field} (h : f.name = g.name) : f = g := by
  have hsome : some f = some g := by rw [← Field.ofName?_name f, ← Field.ofName?_name g, h]
  exact Option.some.inj hsome

theorem given?_of_holds {f g : Field} {d : Datum} (h : g.Holds d) :
    f.given? (.text g.name, d) = if g = f then some d else none := by
  split
  · next hgf =>
    subst hgf
    exact given?_eq_some_iff.mpr ⟨rfl, h⟩
  · next hgf =>
    rw [Option.eq_none_iff_forall_ne_some]
    intro value hvalue
    obtain ⟨hkey, -⟩ := given?_eq_some_iff.mp hvalue
    obtain ⟨hname, -⟩ := Prod.mk.inj hkey
    exact hgf (name_injective (Datum.text.inj hname))

theorem get_applyEntry (path : Path) (f : Field) (s : Settings) (e : Datum × Datum) :
    (applyEntry path e s).1.get f = (f.given? e).getD (s.get f) := by
  by_cases h : IsUsable e
  · obtain ⟨key, d⟩ := e
    obtain ⟨g, rfl, hd⟩ := h
    rw [applyEntry_of_holds hd, get_set, given?_of_holds hd]
    split <;> rfl
  · rw [applyEntry_of_not_isUsable h, given?_eq_none_of_not_isUsable h]
    rfl

theorem records_applyEntry (path : Path) (e : Datum × Datum) (s : Settings) :
    (applyEntry path e s).2 = if ¬ IsUsable e then [entryWarning path e] else [] := by
  by_cases h : IsUsable e
  · obtain ⟨key, d⟩ := e
    obtain ⟨g, rfl, hd⟩ := id h
    rw [applyEntry_of_holds hd, if_neg (not_not_intro h)]
  · rw [applyEntry_of_not_isUsable h, if_pos h]

/-- The entries of a file set what they can, one after the other, and the others are told of. -/
theorem applyAll_applyEntry (path : Path) (s : Settings) (entries : List (Datum × Datum)) :
    applyAll (applyEntry path) s entries
      = (entries.foldl (fun s e => (applyEntry path e s).1) s,
        (entries.filter fun e => ¬ IsUsable e).map (entryWarning path)) :=
  applyAll_eq (fun e _ s => records_applyEntry path e s) s

/-! ## The environment -/

/-- A variable that is set to a text its setting cannot be read from. -/
def IsMisread (env : Environment) (v : String × Field) : Prop :=
  ∃ text, env.lookup v.1 = some text ∧ ¬ v.2.IsReadable text

instance (env : Environment) : DecidablePred (IsMisread env) := fun v =>
  match h : env.lookup v.1 with
  | none => isFalse (by simp [IsMisread, h])
  | some text => decidable_of_iff (¬ v.2.IsReadable text) (by simp [IsMisread, h])

/-- What is said about a variable that cannot be read. -/
def variableWarning (env : Environment) (v : String × Field) : Log.Record :=
  Log.warning topic (v.1 ++ " の値が不正です: " ++ (env.lookup v.1).getD "")

theorem records_applyVariable {v : String × Field} (hv : v ∈ knownVariables) (env : Environment)
    (s : Settings) :
    (applyVariable env v s).2 = if IsMisread env v then [variableWarning env v] else [] := by
  cases hset : env.lookup v.1 with
  | none => simp [applyVariable, IsMisread, hset]
  | some text =>
    have hmisread : IsMisread env v ↔ ¬ v.2.IsReadable text := by simp [IsMisread, hset]
    have hvariable := Field.mem_knownVariables_iff.mp hv
    cases hread : v.2.read text with
    | none =>
      have hunreadable : ¬ v.2.IsReadable text := by
        rintro ⟨d, hd⟩
        rw [(Field.read_eq_some_iff hvariable).mpr hd] at hread
        cases hread
      rw [if_pos (hmisread.mpr hunreadable)]
      simp only [applyVariable, variableWarning, hset, hread, Option.getD_some]
      rfl
    | some d =>
      have hreadable : v.2.IsReadable text := ⟨d, (Field.read_eq_some_iff hvariable).mp hread⟩
      rw [if_neg fun h => hmisread.mp h hreadable]
      simp only [applyVariable, hset, hread]

/-- The value that a variable gives a setting. -/
def Field.told? (f : Field) (env : Environment) (v : String × Field) : Option Datum :=
  if v.2 = f then (env.lookup v.1).bind f.read else none

theorem get_applyVariable (env : Environment) (f : Field) (s : Settings) (v : String × Field) :
    (applyVariable env v s).1.get f = (f.told? env v).getD (s.get f) := by
  obtain ⟨name, g⟩ := v
  by_cases hgf : g = f
  · subst hgf
    cases hset : env.lookup name with
    | none => simp [applyVariable, Field.told?, hset]
    | some text => cases hread : g.read text <;> simp [applyVariable, Field.told?, hset, hread]
  · cases hset : env.lookup name with
    | none => simp [applyVariable, Field.told?, hset, hgf]
    | some text =>
      cases hread : g.read text <;> simp [applyVariable, Field.told?, hset, hread, get_set, hgf]

/-- The variables set what they can, one after the other, and the others are told of. -/
theorem applyEnvironment_eq (env : Environment) (s : Settings) :
    applyEnvironment env s
      = (knownVariables.foldl (fun s v => (applyVariable env v s).1) s,
        (knownVariables.filter (IsMisread env)).map (variableWarning env)) :=
  applyAll_eq (fun _ hv s => records_applyVariable hv env s) s

theorem latest_told? (env : Environment) (f : Field) :
    latest (f.told? env) knownVariables
      = (f.variableName?.bind fun name => env.lookup name).bind f.read := by
  cases f <;> simp [latest_cons, knownVariables, Field.told?, Field.variableName?]

/-! ## Overrides -/

/-- The value that an override gives a setting. -/
def Field.overridden? (f : Field) (o : String × Datum) : Option Datum :=
  if o.1 = f.name ∧ o.2.isNone = false then some o.2 else none

theorem overridden?_eq_some_iff {f : Field} {o : String × Datum} {d : Datum} :
    f.overridden? o = some d ↔ o = (f.name, d) ∧ d ≠ .none := by
  obtain ⟨name, value⟩ := o
  simp only [Field.overridden?]
  constructor
  · intro h
    split at h
    · next hgiven =>
      cases h
      exact ⟨by rw [hgiven.1], (Field.isNone_eq_false_iff d).mp hgiven.2⟩
    · cases h
  · rintro ⟨h, hd⟩
    cases h
    exact if_pos ⟨rfl, (Field.isNone_eq_false_iff d).mpr hd⟩

theorem override_cons (s : Settings) (f : Field) (d : Datum) (overrides : Overrides) :
    s.override ((f.name, d) :: overrides)
      = (if d.isNone then s else s.set f d).override overrides := by
  rw [override, Field.ofName?_name]

theorem get_override (s : Settings) (f : Field) (o : String × Datum) :
    (s.override [o]).1.get f = (f.overridden? o).getD (s.get f) := by
  obtain ⟨name, d⟩ := o
  cases hname : Field.ofName? name with
  | none =>
    have hother : name ≠ f.name := by
      rintro rfl
      rw [Field.ofName?_name] at hname
      cases hname
    simp [override, hname, Field.overridden?, hother]
  | some g =>
    obtain rfl := ofName?_eq_some_iff.mp hname
    rw [override_cons, override]
    by_cases hgf : g = f
    · subst hgf
      cases d <;> simp [Field.overridden?, Datum.isNone]
    · have hother : g.name ≠ f.name := fun h => hgf (name_injective h)
      cases d <;> simp [Field.overridden?, Datum.isNone, hother, get_set, hgf]

/-- Overrides of known settings are set one after the other. -/
theorem override_eq (s : Settings) {overrides : Overrides}
    (h : ∀ o ∈ overrides, ∃ f : Field, o.1 = f.name) :
    s.override overrides
      = (overrides.foldl (fun s o => (s.override [o]).1) s, none) := by
  induction overrides generalizing s with
  | nil => rfl
  | cons o overrides ih =>
    obtain ⟨name, d⟩ := o
    obtain ⟨f, rfl⟩ := h _ List.mem_cons_self
    rw [override_cons, ih _ fun p hp => h p (List.mem_cons_of_mem _ hp), List.foldl_cons,
      override_cons, override]

end Retrace.Settings
