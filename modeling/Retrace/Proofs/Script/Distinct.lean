import Retrace.Proofs.Literal.Unique
import Retrace.Proofs.Recording.NormalForm
import Retrace.Proofs.Script.Failure

/-!
# Distinct calls

Two operations that are written as the same call agree in everything that the
call is about. The method is named in front of the first parenthesis and tells
the kind, the selector is a literal of its own, and the arguments are literals
or have names, so each part is found again where it was written. What is left
out or written in a shorter way is told by what is written.
-/

namespace Retrace.Script

open Literal
open Recording hiding ofDatum

/-! ## Agreement -/

/-- Two places of equal coordinates, or none in both cases. -/
inductive SamePlace : Option Point → Option Point → Prop
  | none : SamePlace none none
  | some {p q : Point} (x : p.x.sameValue q.x = true) (y : p.y.sameValue q.y = true) :
    SamePlace (some p) (some q)

structure SameClick (c c' : Click) : Prop where
  selector : c.selector = c'.selector
  button : c.button = c'.button
  modifiers : c.modifiers = c'.modifiers
  clickCount : c.clickCount = c'.clickCount
  position : SamePlace c.position c'.position

/-- Two operations of one kind that agree in their parts; of a key only the shortcut counts. -/
inductive Agree : Operation → Operation → Prop
  | closePage : Agree .closePage .closePage
  | click {c c' : Click} (h : SameClick c c') : Agree (.click c) (.click c')
  | check (selector : String) : Agree (.check selector) (.check selector)
  | uncheck (selector : String) : Agree (.uncheck selector) (.uncheck selector)
  | fill (selector text : String) : Agree (.fill selector text) (.fill selector text)
  | setInputFiles (selector : String) (files : List String) :
    Agree (.setInputFiles selector files) (.setInputFiles selector files)
  | press (selector : String) {key key' : String} {modifiers modifiers' : List Modifier}
    (h : shortcut modifiers key = shortcut modifiers' key') :
    Agree (.press selector key modifiers) (.press selector key' modifiers')
  | navigate (url : String) : Agree (.navigate url) (.navigate url)
  | select (selector : String) (options : List String) :
    Agree (.select selector options) (.select selector options)

/-! ## Calls -/

/-- What stands between the parentheses of a call. -/
def Call.inside (c : Call) : List Char :=
  match c.selector with
  | some selector => withSelector selector c.arguments
  | none => c.arguments

theorem Call.text_eq (c : Call) : c.text = c.method ++ '(' :: (c.inside ++ [')']) := by
  unfold Call.text Call.inside
  cases c.selector <;> simp

/-- The method ends at the first parenthesis. -/
theorem Call.text_injective {c c' : Call} (hc : '(' ∉ c.method) (hc' : '(' ∉ c'.method)
    (h : c.text = c'.text) : c.method = c'.method ∧ c.inside = c'.inside := by
  rw [c.text_eq, c'.text_eq] at h
  obtain ⟨hmethod, hinside⟩ := cut_injective hc hc' h
  exact ⟨hmethod, List.append_cancel_right hinside⟩

/-- The selector is the first literal, and the arguments are what follows. -/
theorem withSelector_injective {s s' a a' : List Char} (h : withSelector s a = withSelector s' a') :
    s = s' ∧ a = a' := by
  obtain ⟨rfl, hrest⟩ := quote_append_injective h
  refine ⟨rfl, ?_⟩
  by_cases ha : a = []
  · by_cases ha' : a' = []
    · rw [ha, ha']
    · simp [ha, ha'] at hrest
  · by_cases ha' : a' = []
    · simp [ha, ha'] at hrest
    · simpa [ha, ha'] using hrest

/-- Each method belongs to one kind of operations. -/
def methodKinds : List (String × String) :=
  [("close", "closePage"), ("click", "click"), ("dblclick", "click"), ("check", "check"),
    ("uncheck", "uncheck"), ("fill", "fill"), ("set_input_files", "setInputFiles"),
    ("press", "press"), ("goto", "navigate"), ("select_option", "select")]

theorem exists_methodKind {o : Operation} {call : Call} (h : callOf o = .ok call) :
    ∃ m ∈ methodKinds, call.method = m.1.toList ∧ o.kind = m.2 := by
  have hfound (method kind : String) (hmem : (method, kind) ∈ methodKinds)
      (hmethod : call.method = method.toList) (hkind : o.kind = kind) :
      ∃ m ∈ methodKinds, call.method = m.1.toList ∧ o.kind = m.2 :=
    ⟨_, hmem, hmethod, hkind⟩
  cases o with
  | openPage url => cases h
  | closePage =>
    cases h
    exact hfound "close" "closePage" (by decide) rfl rfl
  | click c =>
    obtain ⟨arguments, -, h⟩ := Result.bind_eq_ok.mp h
    cases h
    by_cases hcount : (c.clickCount : Int) = 2
    · apply hfound "dblclick" "click" (by decide) _ rfl
      rw [onElement, clickMethod, if_pos hcount]
    · apply hfound "click" "click" (by decide) _ rfl
      rw [onElement, clickMethod, if_neg hcount]
  | check selector =>
    cases h
    exact hfound "check" "check" (by decide) rfl rfl
  | uncheck selector =>
    cases h
    exact hfound "uncheck" "uncheck" (by decide) rfl rfl
  | fill selector text =>
    cases h
    exact hfound "fill" "fill" (by decide) rfl rfl
  | setInputFiles selector files =>
    obtain ⟨arguments, -, h⟩ := Result.bind_eq_ok.mp h
    cases h
    exact hfound "set_input_files" "setInputFiles" (by decide) rfl rfl
  | press selector key modifiers =>
    cases h
    exact hfound "press" "press" (by decide) rfl rfl
  | navigate url =>
    cases h
    exact hfound "goto" "navigate" (by decide) rfl rfl
  | select selector options =>
    obtain ⟨arguments, -, h⟩ := Result.bind_eq_ok.mp h
    cases h
    exact hfound "select_option" "select" (by decide) rfl rfl

/-- Operations of the same call are of the same kind, and call alike inside the parentheses. -/
theorem kind_eq_of_text_eq {o o' : Operation} {call call' : Call} (h : callOf o = .ok call)
    (h' : callOf o' = .ok call') (htext : call.text = call'.text) :
    o.kind = o'.kind ∧ call.method = call'.method ∧ call.inside = call'.inside := by
  have hopen : ∀ m ∈ methodKinds, '(' ∉ m.1.toList := by decide
  have hkinds : ∀ m ∈ methodKinds, ∀ m' ∈ methodKinds, m.1 = m'.1 → m.2 = m'.2 := by
    decide
  obtain ⟨m, hm, hmethod, hkind⟩ := exists_methodKind h
  obtain ⟨m', hm', hmethod', hkind'⟩ := exists_methodKind h'
  obtain ⟨hsame, hinside⟩ :=
    Call.text_injective (hmethod ▸ hopen m hm) (hmethod' ▸ hopen m' hm') htext
  have hname : m.1 = m'.1 := String.toList_inj.mp (hmethod ▸ hmethod' ▸ hsame)
  exact ⟨hkind.trans ((hkinds m hm m' hm' hname).trans hkind'.symm), hsame, hinside⟩

/-! ## One text or many -/

theorem hasLiteral_texts (texts : List String) : HasLiteral (textsDatum texts) := by
  apply HasLiteral.list
  intro d hd
  obtain ⟨t, -, rfl⟩ := List.mem_map.mp hd
  exact .text t

theorem restored_texts (texts : List String) : restored (textsDatum texts) = textsDatum texts := by
  rw [textsDatum, restored, restoredAll_eq_map, List.map_map]
  rfl

theorem textsDatum_injective {texts texts' : List String}
    (h : textsDatum texts = textsDatum texts') : texts = texts' := by
  have htext : Function.Injective Datum.text := fun _ _ => Datum.text.inj
  exact List.map_injective_iff.mpr htext (Datum.list.inj h)

theorem oneOrMany_cases (texts : List String) :
    (∃ t, texts = [t] ∧ oneOrMany texts = .text t) ∨ oneOrMany texts = textsDatum texts := by
  unfold oneOrMany
  split
  · next t => exact .inl ⟨t, rfl, rfl⟩
  · exact .inr rfl

/-- One text alone is no list, so what is written tells the texts. -/
theorem oneOrMany_injective {texts texts' : List String} (h : oneOrMany texts = oneOrMany texts') :
    texts = texts' := by
  obtain ⟨t, rfl, ht⟩ | ht := oneOrMany_cases texts
  · obtain ⟨t', rfl, ht'⟩ | ht' := oneOrMany_cases texts'
    · rw [ht, ht'] at h
      rw [Datum.text.inj h]
    · rw [ht, ht'] at h
      cases h
  · obtain ⟨t', rfl, ht'⟩ | ht' := oneOrMany_cases texts'
    · rw [ht, ht'] at h
      cases h
    · rw [ht, ht'] at h
      exact textsDatum_injective h

theorem hasLiteral_oneOrMany (texts : List String) :
    HasLiteral (oneOrMany texts) ∧ restored (oneOrMany texts) = oneOrMany texts := by
  obtain ⟨t, -, h⟩ | h := oneOrMany_cases texts
  · rw [h]
    exact ⟨.text t, rfl⟩
  · rw [h]
    exact ⟨hasLiteral_texts texts, restored_texts texts⟩

theorem eq_of_literal_oneOrMany {texts texts' : List String} {s : List Char}
    (h : literal (oneOrMany texts) = .ok s) (h' : literal (oneOrMany texts') = .ok s) :
    texts = texts' := by
  obtain ⟨hliteral, hrestored⟩ := hasLiteral_oneOrMany texts
  obtain ⟨hliteral', hrestored'⟩ := hasLiteral_oneOrMany texts'
  have hsame := restored_injective hliteral hliteral' (Result.mapError_eq_ok.mp h)
    (Result.mapError_eq_ok.mp h')
  rw [hrestored, hrestored'] at hsame
  exact oneOrMany_injective hsame

/-! ## The options of a click -/

/-- An option as it is read: its name as it is written, and what is left of its value. -/
def asRead (o : String × Datum) : List Char × Datum :=
  (Naming.snakeCase o.1.toList, restored o.2)

/-- An option that is read as what is written for it. -/
structure IsReadable (o : String × Datum) : Prop where
  name : '=' ∉ Naming.snakeCase o.1.toList
  value : ∀ s, ofDatum o.2 = .ok s → HasLiteral o.2

theorem argumentReads_item {o : String × Datum} (ho : IsReadable o) {s : List Char}
    (h : Options.item {} o = .ok s) : ArgumentReads s (asRead o) := by
  obtain ⟨value, hvalue, h⟩ := Result.bind_eq_ok.mp h
  cases h
  exact ⟨ho.name, value, rfl, reads_of_hasLiteral (ho.value value hvalue) hvalue⟩

theorem argumentReads_of_mapM {options : Literal.Options} (h : ∀ o ∈ options, IsReadable o)
    {texts : List (List Char)} (htexts : options.mapM (Options.item {}) = .ok texts) :
    List.Forall₂ ArgumentReads texts (options.map asRead) := by
  induction Result.mapM_eq_ok.mp htexts with
  | nil => exact .nil
  | cons hitem hrest ih =>
    obtain ⟨ho, hoptions⟩ := List.forall_mem_cons.mp h
    exact .cons (argumentReads_item ho hitem) (ih hoptions (Result.mapM_eq_ok.mpr hrest))

theorem isFinite_of_ofDatum_point {p : Point} {s : List Char} (h : ofDatum p.toDatum = .ok s) :
    p.x.isFinite = true ∧ p.y.isFinite = true := by
  cases hnone : nonFinite? p with
  | none => simpa [nonFinite?] using hnone
  | some x =>
    rw [ofDatum_point_of_nonFinite hnone] at h
    cases h

theorem hasLiteral_point {p : Point} (hx : p.x.isFinite = true) (hy : p.y.isFinite = true) :
    HasLiteral p.toDatum := by
  refine .dict p.fields (by simp [Point.fields]) ?_
  simp only [Point.fields, List.forall_mem_cons, List.not_mem_nil, false_implies, implies_true,
    and_true]
  exact ⟨.double _ hx, .double _ hy⟩

theorem isReadable_button (c : Click) : ∀ o ∈ buttonOptions c, IsReadable o := by
  intro o ho
  unfold buttonOptions at ho
  split at ho
  · cases ho
  · rw [List.mem_singleton.mp ho]
    exact ⟨(by decide : '=' ∉ Naming.snakeCase "button".toList), fun _ _ => .text _⟩

theorem isReadable_count (c : Click) : ∀ o ∈ countOptions c, IsReadable o := by
  intro o ho
  unfold countOptions at ho
  split at ho
  · rw [List.mem_singleton.mp ho]
    refine ⟨(by decide : '=' ∉ Naming.snakeCase "clickCount".toList), ?_⟩
    intro s hs
    rw [ofDatum] at hs
    exact .int _ (natAbs_lt_of_ofInt hs)
  · cases ho

theorem isReadable_modifiers (c : Click) : ∀ o ∈ modifierOptions c, IsReadable o := by
  intro o ho
  unfold modifierOptions at ho
  split at ho
  · cases ho
  · rw [List.mem_singleton.mp ho]
    exact ⟨(by decide : '=' ∉ Naming.snakeCase "modifiers".toList),
      fun _ _ => hasLiteral_texts _⟩

theorem isReadable_position (c : Click) : ∀ o ∈ positionOptions c, IsReadable o := by
  intro o ho
  unfold positionOptions at ho
  split at ho
  · rw [List.mem_singleton.mp ho]
    refine ⟨(by decide : '=' ∉ Naming.snakeCase "position".toList), ?_⟩
    intro s hs
    obtain ⟨hx, hy⟩ := isFinite_of_ofDatum_point hs
    exact hasLiteral_point hx hy
  · cases ho

theorem isReadable_clickOptions (c : Click) : ∀ o ∈ (clickOptions c).canonical, IsReadable o := by
  rw [canonical_clickOptions]
  simp only [List.forall_mem_append]
  exact ⟨⟨⟨isReadable_button c, isReadable_count c⟩, isReadable_modifiers c⟩, isReadable_position c⟩

/-- What is written for the options of a click tells the options as they are read. -/
theorem asRead_eq_of_writeOptions {c c' : Click} {s : List Char}
    (h : writeOptions (clickOptions c) = .ok s) (h' : writeOptions (clickOptions c') = .ok s) :
    (clickOptions c).canonical.map asRead = (clickOptions c').canonical.map asRead := by
  obtain ⟨texts, htexts, hs⟩ := items_of_write (Result.mapError_eq_ok.mp h)
  obtain ⟨texts', htexts', hs'⟩ := items_of_write (Result.mapError_eq_ok.mp h')
  exact arguments_injective (argumentReads_of_mapM (isReadable_clickOptions c) htexts)
    (argumentReads_of_mapM (isReadable_clickOptions c') htexts') (hs.symm.trans hs')

/-! ## Options by their names -/

/-- Where options stand under their names, those of one name are found by it. -/
theorem filter_flatMap {slots : List (String × Literal.Options)}
    (hslots : ∀ slot ∈ slots, ∀ o ∈ slot.2, o.1 = slot.1)
    (hnames : (slots.map fun slot => Naming.snakeCase slot.1.toList).Nodup)
    {slot : String × Literal.Options} (h : slot ∈ slots) :
    ((slots.flatMap Prod.snd).map asRead).filter
      (fun a => a.1 = Naming.snakeCase slot.1.toList) = slot.2.map asRead := by
  have hname {s : String × Literal.Options} (hs : s ∈ slots) :
      ∀ a ∈ s.2.map asRead, a.1 = Naming.snakeCase s.1.toList := by
    intro a ha
    obtain ⟨o, ho, rfl⟩ := List.mem_map.mp ha
    rw [asRead, hslots s hs o ho]
  have hall : (slot.2.map asRead).filter (fun a => a.1 = Naming.snakeCase slot.1.toList)
      = slot.2.map asRead := by
    apply List.filter_eq_self.mpr
    intro a ha
    simpa using hname h a ha
  have hnone (rest : List (String × Literal.Options)) (hrest : rest ⊆ slots)
      (hnew : ∀ s ∈ rest, Naming.snakeCase s.1.toList ≠ Naming.snakeCase slot.1.toList) :
      ((rest.flatMap Prod.snd).map asRead).filter
        (fun a => a.1 = Naming.snakeCase slot.1.toList) = [] := by
    apply List.filter_eq_nil_iff.mpr
    intro a ha
    obtain ⟨o, ho, rfl⟩ := List.mem_map.mp ha
    obtain ⟨s, hs, hos⟩ := List.mem_flatMap.mp ho
    simpa [hname (hrest hs) _ (List.mem_map_of_mem hos)] using hnew s hs
  obtain ⟨before, after, rfl⟩ := List.append_of_mem h
  simp only [List.map_append, List.map_cons, List.nodup_append, List.nodup_cons, List.mem_cons,
    List.mem_map] at hnames
  obtain ⟨-, ⟨hafter, -⟩, hbefore⟩ := hnames
  have hfirst := hnone before (by simp) fun s hs =>
    hbefore _ ⟨s, hs, rfl⟩ _ (.inl rfl)
  have hlast := hnone after (by simp) fun s hs heq => hafter ⟨s, hs, heq⟩
  rw [List.flatMap_append, List.flatMap_cons, List.map_append, List.map_append, List.filter_append,
    List.filter_append, hfirst, hall, hlast, List.nil_append, List.append_nil]

/-- The options of a click under their names. -/
def slots (c : Click) : List (String × Literal.Options) :=
  [("button", buttonOptions c), ("clickCount", countOptions c), ("modifiers", modifierOptions c),
    ("position", positionOptions c)]

theorem canonical_eq_slots (c : Click) :
    (clickOptions c).canonical = (slots c).flatMap Prod.snd := by
  simp [canonical_clickOptions, slots]

theorem filter_slots (c : Click) {slot : String × Literal.Options} (h : slot ∈ slots c) :
    ((clickOptions c).canonical.map asRead).filter
      (fun a => a.1 = Naming.snakeCase slot.1.toList) = slot.2.map asRead := by
  have hname {options : Literal.Options} {name : String} {texts : List (List Char)}
      (h : Optional options name texts) : ∀ o ∈ options, o.1 = name :=
    fun o ho => List.mem_singleton.mp (h.names.subset (List.mem_map_of_mem ho))
  have hslots : ∀ slot ∈ slots c, ∀ o ∈ slot.2, o.1 = slot.1 := by
    simp only [slots, List.forall_mem_cons, List.not_mem_nil, false_implies, implies_true, and_true]
    exact ⟨hname (optional_button c), hname (optional_count c), hname (optional_modifiers c),
      hname (optional_position c)⟩
  have hnames : (["button", "clickCount", "modifiers", "position"].map fun name =>
      Naming.snakeCase name.toList).Nodup := by
    decide
  rw [canonical_eq_slots]
  exact filter_flatMap hslots hnames h

/-- Options that are read alike are alike name by name. -/
theorem slots_eq {c c' : Click}
    (h : (clickOptions c).canonical.map asRead = (clickOptions c').canonical.map asRead) :
    (buttonOptions c).map asRead = (buttonOptions c').map asRead
      ∧ (countOptions c).map asRead = (countOptions c').map asRead
      ∧ (modifierOptions c).map asRead = (modifierOptions c').map asRead
      ∧ (positionOptions c).map asRead = (positionOptions c').map asRead := by
  have hslot (name : String) {options options' : Literal.Options} (ho : (name, options) ∈ slots c)
      (ho' : (name, options') ∈ slots c') : options.map asRead = options'.map asRead := by
    have hfound := filter_slots c ho
    rw [h, filter_slots c' ho'] at hfound
    exact hfound.symm
  exact ⟨hslot "button" (by simp [slots]) (by simp [slots]),
    hslot "clickCount" (by simp [slots]) (by simp [slots]),
    hslot "modifiers" (by simp [slots]) (by simp [slots]),
    hslot "position" (by simp [slots]) (by simp [slots])⟩

/-! ## Clicks -/

theorem button_eq {c c' : Click}
    (h : (buttonOptions c).map asRead = (buttonOptions c').map asRead) :
    c.button = c'.button := by
  unfold buttonOptions at h
  generalize c.button = b at h ⊢
  generalize c'.button = b' at h ⊢
  cases b <;> cases b' <;> simp [asRead, restored, Button.name] at h ⊢

theorem clickCount_eq {c c' : Click} (hc : 1 ≤ c.clickCount) (hc' : 1 ≤ c'.clickCount)
    (hmethod : (clickMethod c.clickCount).toList = (clickMethod c'.clickCount).toList)
    (h : (countOptions c).map asRead = (countOptions c').map asRead) :
    c.clickCount = c'.clickCount := by
  have hdouble : (c.clickCount : Int) = 2 ↔ (c'.clickCount : Int) = 2 := by
    unfold clickMethod at hmethod
    split at hmethod <;> split at hmethod <;> simp_all
  unfold countOptions at h
  split at h <;> split at h
  all_goals simp [asRead, restored] at h
  all_goals omega

theorem modifiers_eq {c c' : Click}
    (h : (modifierOptions c).map asRead = (modifierOptions c').map asRead) :
    c.modifiers = c'.modifiers := by
  have hnames {modifiers modifiers' : List Modifier}
      (h : restored (modifiersDatum modifiers) = restored (modifiersDatum modifiers')) :
      modifiers = modifiers' := by
    rw [modifiersDatum, modifiersDatum, restored_texts, restored_texts] at h
    have hname : Function.Injective Modifier.name := fun _ _ => Modifier.name_injective
    exact List.map_injective_iff.mpr hname (textsDatum_injective h)
  unfold modifierOptions at h
  split at h
  case isTrue hnone =>
    split at h
    case isTrue hnone' => rw [hnone, hnone']
    case isFalse => cases h
  case isFalse =>
    split at h
    case isTrue => cases h
    case isFalse =>
      obtain ⟨hsame, -⟩ := List.cons_eq_cons.mp h
      exact hnames (Prod.mk.inj hsame).2

theorem restored_point (p : Point) :
    restored p.toDatum
      = .dict [(.text "x", restored (.double p.x)), (.text "y", restored (.double p.y))] := rfl

/-- Of a position that is written, the coordinates are told by their values. -/
theorem samePlace_of_asRead {c c' : Click}
    (hc : ∀ p ∈ c.position, p.x.isFinite = true ∧ p.y.isFinite = true)
    (h : (positionOptions c).map asRead = (positionOptions c').map asRead) :
    SamePlace c.position c'.position := by
  unfold positionOptions at h
  cases hp : c.position with
  | none =>
    cases hp' : c'.position with
    | none => exact .none
    | some p' =>
      rw [hp, hp'] at h
      cases h
  | some p =>
    cases hp' : c'.position with
    | none =>
      rw [hp, hp'] at h
      cases h
    | some p' =>
      rw [hp, hp'] at h
      obtain ⟨hsame, -⟩ := List.cons_eq_cons.mp h
      have hvalues := (Prod.mk.inj hsame).2
      obtain ⟨hx, hy⟩ := hc p hp
      rw [restored_point, restored_point] at hvalues
      simp only [Datum.dict.injEq, List.cons.injEq, Prod.mk.injEq, true_and, and_true] at hvalues
      exact .some (sameValue_of_restored hx hvalues.1) (sameValue_of_restored hy hvalues.2)

theorem isFinite_of_writeOptions {c : Click} {s : List Char}
    (h : writeOptions (clickOptions c) = .ok s) :
    ∀ p ∈ c.position, p.x.isFinite = true ∧ p.y.isFinite = true := by
  intro p hp
  obtain ⟨texts, htexts, -⟩ := items_of_write (Result.mapError_eq_ok.mp h)
  have hmem : ("position", p.toDatum) ∈ (clickOptions c).canonical := by
    rw [canonical_clickOptions, positionOptions, Option.mem_def.mp hp]
    simp
  obtain ⟨item, hitem⟩ := Result.exists_eq_ok_of_mapM_eq_ok htexts hmem
  obtain ⟨value, hvalue, -⟩ := Result.bind_eq_ok.mp hitem
  exact isFinite_of_ofDatum_point hvalue

theorem sameClick_of_callOf {c c' : Click} {call call' : Call} (hc : 1 ≤ c.clickCount)
    (hc' : 1 ≤ c'.clickCount) (h : callOf (.click c) = .ok call)
    (h' : callOf (.click c') = .ok call') (hmethod : call.method = call'.method)
    (hinside : call.inside = call'.inside) : SameClick c c' := by
  obtain ⟨arguments, hs, h⟩ := Result.bind_eq_ok.mp h
  obtain ⟨arguments', hs', h'⟩ := Result.bind_eq_ok.mp h'
  cases h
  cases h'
  obtain ⟨hselector, rfl⟩ := withSelector_injective hinside
  obtain ⟨hbutton, hcount, hmodifiers, hposition⟩ := slots_eq (asRead_eq_of_writeOptions hs hs')
  exact
    { selector := String.toList_inj.mp hselector
      button := button_eq hbutton
      modifiers := modifiers_eq hmodifiers
      clickCount := clickCount_eq hc hc' hmethod hcount
      position := samePlace_of_asRead (isFinite_of_writeOptions hs) hposition }

/-! ## Operations -/

/-- Operations of the same call are told apart by nothing that the call is about. -/
theorem agree_of_callOf {o o' : Operation} {call call' : Call} (ho : o.IsNormal) (ho' : o'.IsNormal)
    (h : callOf o = .ok call) (h' : callOf o' = .ok call') (htext : call.text = call'.text) :
    o.kind = o'.kind ∧ Agree o o' := by
  obtain ⟨hkind, hmethod, hinside⟩ := kind_eq_of_text_eq h h' htext
  refine ⟨hkind, ?_⟩
  -- pairs of different kinds first
  cases o <;> cases o'
  all_goals try (simp [Operation.kind] at hkind; done)
  case openPage.openPage => cases h
  case closePage.closePage => exact .closePage
  case click.click c c' =>
    exact .click (sameClick_of_callOf ho.clickCount ho'.clickCount h h' hmethod hinside)
  case check.check selector selector' =>
    cases h
    cases h'
    obtain rfl := String.toList_inj.mp (withSelector_injective hinside).1
    exact .check selector
  case uncheck.uncheck selector selector' =>
    cases h
    cases h'
    obtain rfl := String.toList_inj.mp (withSelector_injective hinside).1
    exact .uncheck selector
  case fill.fill selector text selector' text' =>
    cases h
    cases h'
    obtain ⟨hselector, harguments⟩ := withSelector_injective hinside
    obtain rfl := String.toList_inj.mp hselector
    obtain rfl := String.toList_inj.mp (quote_injective harguments)
    exact .fill selector text
  case setInputFiles.setInputFiles selector files selector' files' =>
    obtain ⟨arguments, hs, h⟩ := Result.bind_eq_ok.mp h
    obtain ⟨arguments', hs', h'⟩ := Result.bind_eq_ok.mp h'
    cases h
    cases h'
    obtain ⟨hselector, rfl⟩ := withSelector_injective hinside
    obtain rfl := String.toList_inj.mp hselector
    obtain rfl := eq_of_literal_oneOrMany hs hs'
    exact .setInputFiles selector files
  case press.press selector key modifiers selector' key' modifiers' =>
    cases h
    cases h'
    obtain ⟨hselector, harguments⟩ := withSelector_injective hinside
    obtain rfl := String.toList_inj.mp hselector
    exact .press selector (quote_injective harguments)
  case navigate.navigate url url' =>
    cases h
    cases h'
    obtain rfl := String.toList_inj.mp (quote_injective hinside)
    exact .navigate url
  case select.select selector options selector' options' =>
    obtain ⟨arguments, hs, h⟩ := Result.bind_eq_ok.mp h
    obtain ⟨arguments', hs', h'⟩ := Result.bind_eq_ok.mp h'
    cases h
    cases h'
    obtain ⟨hselector, rfl⟩ := withSelector_injective hinside
    obtain rfl := String.toList_inj.mp hselector
    obtain rfl := eq_of_literal_oneOrMany hs hs'
    exact .select selector options

theorem callOf_of_writeOperation {o : Operation} {adapter : Adapter} {s : List Char}
    (h : writeOperation .selector adapter o = .ok s) :
    ∃ call, callOf o = .ok call ∧ call.text = s := by
  obtain ⟨call, hcall, hwrite⟩ := Result.bind_eq_ok.mp h
  rw [Call.write_selector] at hwrite
  exact ⟨call, hcall, Except.ok.inj hwrite⟩

/-- Actions that have been accepted and are written as the same call agree: they are of one kind,
and what is left out or shortened in the call makes no two different actions look alike. -/
theorem agree_of_writeOperation {d d' : Datum} {a a' : Action} {adapter adapter' : Adapter}
    {s : List Char} (hd : checkAction d = .accepted a) (hd' : checkAction d' = .accepted a')
    (h : writeOperation .selector adapter a.operation = .ok s)
    (h' : writeOperation .selector adapter' a'.operation = .ok s) :
    a.operation.kind = a'.operation.kind ∧ Agree a.operation a'.operation := by
  obtain ⟨call, hcall, htext⟩ := callOf_of_writeOperation h
  obtain ⟨call', hcall', htext'⟩ := callOf_of_writeOperation h'
  exact agree_of_callOf (isNormal_of_checkAction hd) (isNormal_of_checkAction hd') hcall hcall'
    (htext.trans htext'.symm)

/-- A key that is pressed while another is held down. -/
def heldKey : Action := ⟨.press "#a" "A" [.controlKey], []⟩

/-- The same shortcut with the key that is held down as a part of the name. -/
def namedKey : Action := ⟨.press "#a" "Control+A" [], []⟩

theorem agree_of_writeOperation_press :
    heldKey ≠ namedKey
      ∧ (∃ d, checkAction d = .accepted heldKey) ∧ (∃ d, checkAction d = .accepted namedKey)
      ∧ writeOperation .selector .ok heldKey.operation
        = writeOperation .selector .ok namedKey.operation
      ∧ Agree heldKey.operation namedKey.operation := by
  have hheld : checkAction heldKey.toDatum = .accepted heldKey :=
    checkAction_toDatum ⟨by decide, by decide⟩
  have hnamed : checkAction namedKey.toDatum = .accepted namedKey :=
    checkAction_toDatum ⟨by decide, by decide⟩
  have hwrite : writeOperation .selector .ok heldKey.operation
      = .ok "press(\x22#a\x22, \x22Control+A\x22)".toList := by
    rfl
  have hwrite' : writeOperation .selector .ok namedKey.operation
      = .ok "press(\x22#a\x22, \x22Control+A\x22)".toList := by
    rfl
  have hagree := agree_of_writeOperation hheld hnamed hwrite hwrite'
  exact ⟨by decide, ⟨_, hheld⟩, ⟨_, hnamed⟩, hwrite.trans hwrite'.symm, hagree.2⟩

end Retrace.Script
