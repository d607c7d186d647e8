import Retrace.Proofs.Recording.Checked
import Retrace.Proofs.Result
import Retrace.Recording.Load
import Retrace.Recording.Record

/-!
# How reading a recording ends

Data that are no recording are refused with a fault that names the entry, or with
a complaint that they are no list. There is one way around this: modifier keys
that are neither a mask nor texts end everything at once, and their fault says
nothing about the recording. It comes just from the first entry that is not
accepted, if this is a click or a press with such keys.
-/

namespace Retrace

/-! ## Modifier keys -/

namespace Modifier

/-- Data that are neither a mask nor a collection of texts. -/
def IsUnreadable (d : Datum) : Prop :=
  match d.view with
  | .bool _ | .int _ | .text _ | .brokenText _ => False
  | .list items | .tuple items | .set items => ∃ item ∈ items, item.isText = false
  | .dict entries | .orderedDict entries => ∃ e ∈ entries, e.1.isText = false
  | _ => True

theorem firstNonText_eq_none_iff (position : Nat) (items : List Datum) :
    firstNonText position items = none ↔ ∀ item ∈ items, item.isText = true := by
  induction items generalizing position with
  | nil => simp [firstNonText]
  | cons item rest ih => cases item <;> simp [firstNonText, Datum.isText, Datum.points?, ih]

theorem isKnown_of_isText_eq_false {item : Datum} (h : item.isText = false) :
    isKnown item = false := by
  cases item with
  | text s => cases h
  | _ => rfl

/-- Items that are no texts are never known, so they are among the unknown ones. -/
theorem firstNonText_unknown_iff (items : List Datum) :
    firstNonText 0 (items.filter fun item => !isKnown item) = none
      ↔ ∀ item ∈ items, item.isText = true := by
  rw [firstNonText_eq_none_iff]
  constructor
  · intro h item hitem
    by_contra hnot
    have hfalse := Bool.not_eq_true _ ▸ hnot
    apply hnot
    apply h item
    rw [List.mem_filter, isKnown_of_isText_eq_false hfalse]
    exact ⟨hitem, rfl⟩
  · intro h item hitem
    exact h item (List.mem_of_mem_filter hitem)

end Modifier

namespace Recording

open Checked

/-- The fault of keys, unknown names apart: these are a violation like any other. -/
def keysFault? : Except Modifier.Fault (List Modifier) → Option Modifier.Fault
  | .ok _ | .error (.unknown _) => none
  | .error fault => some fault

theorem fault?_checkModifiers (d : Datum) :
    (checkModifiers d).fault? = keysFault? (Modifier.ofDatum d) := by
  unfold checkModifiers
  split
  · next h => rw [h]; rfl
  · next h => rw [h]; rfl
  · next fault hnamed h =>
    rw [h]
    cases fault with
    | unknown names => exact absurd rfl (hnamed names)
    | _ => rfl

theorem isSome_keysFault?_ofItems (items : List Datum) :
    (keysFault? (Modifier.ofItems items)).isSome = true
      ↔ ∃ item ∈ items, item.isText = false := by
  unfold Modifier.ofItems
  have hunknown := Modifier.firstNonText_unknown_iff items
  dsimp only
  split
  · next position kind h =>
    rw [h] at hunknown
    simpa [keysFault?] using hunknown
  · next h =>
    have htexts := hunknown.mp h
    split <;> simpa [keysFault?] using htexts

theorem isSome_fault?_checkModifiers (d : Datum) :
    (checkModifiers d).fault?.isSome = true ↔ Modifier.IsUnreadable d := by
  rw [fault?_checkModifiers, Modifier.ofDatum, Modifier.IsUnreadable]
  cases d.view with
  | list items => exact isSome_keysFault?_ofItems items
  | tuple items => exact isSome_keysFault?_ofItems items
  | set items => exact isSome_keysFault?_ofItems items
  | dict entries => simpa using isSome_keysFault?_ofItems (entries.map (·.1))
  | orderedDict entries => simpa using isSome_keysFault?_ofItems (entries.map (·.1))
  | text s =>
    simpa [Datum.isText, Datum.points?]
      using isSome_keysFault?_ofItems (s.toList.map fun c => .text (String.ofList [c]))
  | brokenText points =>
    simpa [Datum.isText_ofPoints]
      using isSome_keysFault?_ofItems (points.map fun n => .ofPoints [n])
  | bytes bs =>
    cases bs with
    | nil => simp [keysFault?]
    | cons b bs =>
      simpa [Datum.isText, Datum.points?]
        using isSome_keysFault?_ofItems ((b :: bs).map fun b => .int b.toNat)
  | _ => simp [keysFault?]

/-! ## Actions and entries -/

@[simp] theorem fault?_checkSignal (d : Datum) : (checkSignal d).fault? = none := by
  apply fault?_checkTagged_eq_none
  simp [dialogSignal, popupSignal, downloadSignal, navigationSignal]

@[simp] theorem fault?_checkFrame (d : Datum) : (checkFrame d).fault? = none := by
  simp [checkFrame, checkFrameFields]

/-- Only the keys of clicks and of presses can break the check of an operation off. -/
theorem fault?_operation : ∀ o ∈ operations, ∀ fields, (o.2 fields).fault?
    = if o.1 = "click" ∨ o.1 = "press" then
        (lookup fields "modifiers").bind fun keys => (checkModifiers keys).fault?
      else none := by
  simp [operations, checkClick, checkPoint, checkButton, textField, textsField, modifiersField]

theorem fault?_checkFields (name : String) (operation : Fields → Checked Operation)
    (fields : Fields) : (checkFields name operation fields).fault? = (operation fields).fault? := by
  simp [checkFields]

/-- An action whose keys are read, though they cannot be. -/
def HasUnreadableKeys (action : Datum) : Prop :=
  ∃ kind keys, action.field? "name" = some (.text kind) ∧ (kind = "click" ∨ kind = "press")
    ∧ action.field? "modifiers" = some keys ∧ Modifier.IsUnreadable keys

theorem exists_chosen?_actions {fields : Fields} {kind : String}
    (h : lookup fields "name" = some (.text kind)) (hkind : kind ∈ kinds) :
    ∃ a, chosen? actions fields = some a ∧ a.1 = kind := by
  rw [← actions_map_fst] at hkind
  obtain ⟨b, hb, rfl⟩ := List.mem_map.mp hkind
  have hsome : (actions.find? fun c => (Datum.text b.1).text? == some c.1).isSome = true :=
    List.find?_isSome.mpr ⟨b, hb, by simp⟩
  obtain ⟨a, ha⟩ := Option.isSome_iff_exists.mp hsome
  have hchosen : chosen? actions fields = some a := by rw [chosen?, h]; exact ha
  refine ⟨a, hchosen, ?_⟩
  have hname : some (Datum.text a.1) = some (Datum.text b.1) := by
    rw [← (chosen?_eq_some hchosen).2, h]
  simpa using hname

theorem fault?_of_mem_actions {a : String × (Fields → Checked Action)} (ha : a ∈ actions)
    (fields : Fields) : (a.2 fields).fault?
      = if a.1 = "click" ∨ a.1 = "press" then
          (lookup fields "modifiers").bind fun keys => (checkModifiers keys).fault?
        else none := by
  obtain ⟨o, ho, rfl⟩ := List.mem_map.mp ha
  rw [fault?_checkFields, fault?_operation o ho]

theorem isSome_fault?_checkAction (d : Datum) :
    (checkAction d).fault?.isSome = true ↔ HasUnreadableKeys d := by
  rw [checkAction, fault?_checkTagged, HasUnreadableKeys]
  cases hfields : d.entries? with
  | none => simp [field?_eq_bind, hfields]
  | some fields =>
    simp only [field?_eq_bind, hfields, Option.bind_some]
    constructor
    · intro h
      cases hchosen : chosen? actions fields with
      | none => simp [hchosen] at h
      | some a =>
        obtain ⟨ha, hname⟩ := chosen?_eq_some hchosen
        rw [hchosen, Option.bind_some, fault?_of_mem_actions ha] at h
        split at h
        · next hkind =>
          cases hkeys : lookup fields "modifiers" with
          | none => simp [hkeys] at h
          | some keys =>
            rw [hkeys, Option.bind_some, isSome_fault?_checkModifiers] at h
            exact ⟨a.1, keys, hname, hkind, rfl, h⟩
        · cases h
    · rintro ⟨kind, keys, hname, hkind, hkeys, hunreadable⟩
      have hmem : kind ∈ kinds := by
        obtain rfl | rfl := hkind
        · simp [kinds]
        · simp [kinds]
      obtain ⟨a, hchosen, rfl⟩ := exists_chosen?_actions hname hmem
      rw [hchosen, Option.bind_some, fault?_of_mem_actions (chosen?_eq_some hchosen).1,
        if_pos hkind, hkeys, Option.bind_some]
      exact (isSome_fault?_checkModifiers keys).mpr hunreadable

/-- An entry with an action whose keys are read, though they cannot be. -/
def BreaksOff (d : Datum) : Prop :=
  ∃ action, d.field? "action" = some action ∧ HasUnreadableKeys action

theorem isSome_fault?_checkEntry (d : Datum) :
    (checkEntry d).fault?.isSome = true ↔ BreaksOff d := by
  rw [checkEntry, fault?_checkModel, BreaksOff]
  cases hfields : d.entries? with
  | none => simp [field?_eq_bind, hfields]
  | some fields =>
    simp only [field?_eq_bind, hfields, Option.bind_some, checkEntryFields, fault?_seq, fault?_map,
      fault?_required, fault?_checkFrame, Option.bind_fun_none, Option.none_or]
    cases lookup fields "action" with
    | none => simp
    | some action => simp [isSome_fault?_checkAction]

/-! ## Recordings -/

theorem claimedName?_eq_some {d action name : Datum} (haction : d.field? "action" = some action)
    (hname : action.field? "name" = some name) (htext : name.isText = true) :
    claimedName? d = some name := by
  simp [claimedName?, haction, hname, htext]

theorem find?_kinds_text {kind : String} (hkind : kind ∈ kinds) :
    (kinds.find? fun k => (Datum.text kind).text? == some k) = some kind := by
  have hsome : (kinds.find? fun k => (Datum.text kind).text? == some k).isSome = true :=
    List.find?_isSome.mpr ⟨kind, hkind, by simp⟩
  obtain ⟨found, hfound⟩ := Option.isSome_iff_exists.mp hsome
  have hsame := List.find?_some hfound
  simp only [Datum.text?_text, beq_iff_eq, Option.some.injEq] at hsame
  rw [hfound, hsame]

theorem exists_claimedName?_of_accepted {d : Datum} {e : Entry} (h : checkEntry d = .accepted e) :
    ∃ kind ∈ kinds, claimedName? d = some (.text kind) := by
  obtain ⟨fields, hfields, h⟩ := checkModel_eq_accepted.mp h
  obtain ⟨-, action, -, haction, -⟩ := seq_eq_accepted.mp h
  obtain ⟨da, hda, haction⟩ := required_eq_accepted.mp haction
  obtain ⟨inner, a, hinner, hchosen, -⟩ := checkTagged_eq_accepted.mp haction
  obtain ⟨ha, hname⟩ := chosen?_eq_some hchosen
  refine ⟨a.1, ?_, ?_⟩
  · rw [← actions_map_fst]
    exact List.mem_map_of_mem ha
  · have hd : d.field? "action" = some da := by
      rw [field?_eq_bind, hfields, Option.bind_some, hda]
    apply claimedName?_eq_some hd _ rfl
    rw [field?_eq_bind, hinner, Option.bind_some, hname]

theorem exists_claimedName?_of_breaksOff {d : Datum} (h : BreaksOff d) :
    ∃ kind ∈ kinds, claimedName? d = some (.text kind) := by
  obtain ⟨action, haction, kind, keys, hname, hkind, -, -⟩ := h
  refine ⟨kind, ?_, claimedName?_eq_some haction hname rfl⟩
  obtain rfl | rfl := hkind
  · simp [kinds]
  · simp [kinds]

theorem readEntry_of_kind {d : Datum} {kind : String} (hkind : kind ∈ kinds)
    (h : claimedName? d = some (.text kind)) (index : Nat) :
    readEntry index d = match checkEntry d with
      | .accepted e => .ok e
      | .rejected violations => .error (.invalid index kind violations)
      | .broken fault => .error (.modifiers fault) := by
  have hfind := find?_kinds_text hkind
  simp only [readEntry, h]
  generalize (kinds.find? fun k => (Datum.text kind).text? == some k) = found at hfind ⊢
  subst hfind
  rfl

/-- The faults of data that are no recording: each tells what is wrong, and where. -/
inductive Fault.IsDeclared : Fault → Prop
  | notAList (kind : String) : IsDeclared (.notAList kind)
  | unnamed (index : Nat) : IsDeclared (.unnamed index)
  | unknownKind (name : Datum) (index : Nat) : IsDeclared (.unknownKind name index)
  | invalid (index : Nat) (kind : String) (violations : List Violation) :
    IsDeclared (.invalid index kind violations)

/-- An entry is accepted, or refused with its place, or its keys break everything off. -/
theorem readEntry_cases (index : Nat) (d : Datum) :
    (∃ e, checkEntry d = .accepted e ∧ readEntry index d = .ok e)
      ∨ (∃ fault, fault.IsDeclared ∧ readEntry index d = .error fault)
      ∨ ∃ fault, checkEntry d = .broken fault ∧ readEntry index d = .error (.modifiers fault) := by
  unfold readEntry
  cases claimedName? d with
  | none => exact .inr (.inl ⟨_, .unnamed index, rfl⟩)
  | some name =>
    dsimp only
    cases kinds.find? fun kind => name.text? == some kind with
    | some kind =>
      cases checkEntry d with
      | accepted e => exact .inl ⟨e, rfl, rfl⟩
      | rejected violations => exact .inr (.inl ⟨_, .invalid index kind violations, rfl⟩)
      | broken fault => exact .inr (.inr ⟨fault, rfl, rfl⟩)
    | none => exact .inr (.inl ⟨_, .unknownKind name index, rfl⟩)

theorem readEntry_eq_ok_iff (index : Nat) (d : Datum) (e : Entry) :
    readEntry index d = .ok e ↔ checkEntry d = .accepted e := by
  constructor
  · intro h
    obtain ⟨e', hd, he⟩ | ⟨fault, -, hfault⟩ | ⟨fault, -, hfault⟩ := readEntry_cases index d
    · rw [he] at h
      cases h
      exact hd
    · rw [hfault] at h
      cases h
    · rw [hfault] at h
      cases h
  · intro h
    obtain ⟨kind, hkind, hclaimed⟩ := exists_claimedName?_of_accepted h
    rw [readEntry_of_kind hkind hclaimed, h]

theorem exists_readEntry_eq_modifiers_iff (index : Nat) (d : Datum) :
    (∃ fault, readEntry index d = .error (.modifiers fault)) ↔ BreaksOff d := by
  rw [← isSome_fault?_checkEntry, Option.isSome_iff_exists]
  constructor
  · rintro ⟨fault, h⟩
    obtain ⟨e, -, he⟩ | ⟨other, hdeclared, hother⟩ | ⟨other, hd, hother⟩ := readEntry_cases index d
    · rw [he] at h
      cases h
    · rw [hother] at h
      cases h
      cases hdeclared
    · exact ⟨other, fault?_eq_some_iff.mpr hd⟩
  · rintro ⟨fault, h⟩
    have hbreaks : BreaksOff d := by
      rw [← isSome_fault?_checkEntry, h]
      rfl
    obtain ⟨kind, hkind, hclaimed⟩ := exists_claimedName?_of_breaksOff hbreaks
    refine ⟨fault, ?_⟩
    rw [readEntry_of_kind hkind hclaimed, fault?_eq_some_iff.mp h]

theorem isTraversal_entriesFrom :
    Result.IsTraversal readEntry (fun d e => checkEntry d = .accepted e) entriesFrom where
  nil _ := rfl
  cons _ _ _ := rfl
  step_eq_ok := readEntry_eq_ok_iff

theorem ofDatum_of_list {d : Datum} {items : List Datum} (h : d.view = .list items) :
    ofDatum d = entriesFrom 0 items := by
  rw [ofDatum, h]

theorem ofDatum_of_not_list {d : Datum} (h : ∀ items, d.view ≠ .list items) :
    ∃ kind, ofDatum d = .error (.notAList kind) := by
  unfold ofDatum
  split
  · next items hitems => exact absurd hitems (h items)
  · exact ⟨_, rfl⟩

/-- A run over items ends like the first item that is not accepted. -/
theorem entriesFrom_cases (index : Nat) (items : List Datum) :
    (∃ recording, entriesFrom index items = .ok recording
        ∧ List.Forall₂ (fun item e => checkEntry item = .accepted e) items recording)
      ∨ (∃ fault, entriesFrom index items = .error fault ∧ fault.IsDeclared)
      ∨ ∃ fault, entriesFrom index items = .error (.modifiers fault) := by
  cases hread : entriesFrom index items with
  | ok recording => exact .inl ⟨recording, rfl, isTraversal_entriesFrom.eq_ok_iff.mp hread⟩
  | error fault =>
    obtain ⟨before, item, after, -, -, hfault⟩ := isTraversal_entriesFrom.eq_error_iff.mp hread
    obtain ⟨e, -, he⟩ | ⟨other, hdeclared, hother⟩ | ⟨keys, -, hkeys⟩ :=
      readEntry_cases (index + before.length) item
    · rw [he] at hfault
      cases hfault
    · rw [hother] at hfault
      cases hfault
      exact .inr (.inl ⟨_, rfl, hdeclared⟩)
    · rw [hkeys] at hfault
      cases hfault
      exact .inr (.inr ⟨keys, rfl⟩)

theorem exists_entriesFrom_eq_modifiers_iff (index : Nat) (items : List Datum) :
    (∃ fault, entriesFrom index items = .error (.modifiers fault)) ↔
      ∃ before item after, items = before ++ item :: after
        ∧ (∀ b ∈ before, ∃ e, checkEntry b = .accepted e) ∧ BreaksOff item := by
  constructor
  · rintro ⟨fault, h⟩
    obtain ⟨before, item, after, hitems, hbefore, hfault⟩ :=
      isTraversal_entriesFrom.eq_error_iff.mp h
    exact ⟨before, item, after, hitems, hbefore,
      (exists_readEntry_eq_modifiers_iff _ item).mp ⟨fault, hfault⟩⟩
  · rintro ⟨before, item, after, hitems, hbefore, hbreaks⟩
    obtain ⟨fault, hfault⟩ :=
      (exists_readEntry_eq_modifiers_iff (index + before.length) item).mpr hbreaks
    exact ⟨fault,
      isTraversal_entriesFrom.eq_error_iff.mpr ⟨before, item, after, hitems, hbefore, hfault⟩⟩

/-- A click whose keys are given, but hold nothing. -/
def withoutKeys : Datum :=
  .list [record [
    ("frame", record [("pageAlias", .text "page")]),
    ("action", record [("name", .text "click"), ("selector", .text "#a"), ("modifiers", .none)])]]

end Recording

end Retrace
