import Retrace.Proofs.Recording.Modifiers

/-!
# Entries are their own normal form

A check accepts a value in many spellings: a number or a truth value as a text, keys
as a mask, a field that is left out. What it accepts is written in one way, with all
fields, and the check accepts that again as the same value. Keys and counts are the
two parts for which this is not so of every value of their types: it needs that the
keys stand in their order and that the count is positive, and both hold of whatever
has been accepted.
-/

namespace Retrace.Recording

open Checked

/-! ## What has been accepted -/

/-- What checking makes sure of, beyond the type of clicks. -/
structure Click.IsNormal (c : Click) : Prop where
  modifiers : Modifier.AreOrdered c.modifiers
  clickCount : 1 ≤ c.clickCount
  button : c.button.name ∈ ["left", "middle", "right"]

def Operation.IsNormal : Operation → Prop
  | .click c => c.IsNormal
  | .press _ _ modifiers => Modifier.AreOrdered modifiers
  | _ => True

theorem button_name_mem (b : Button) : b.name ∈ ["left", "middle", "right"] := by
  cases b <;> simp [Button.name]

theorem withDefault_eq_accepted {α : Type} {name : String} {default a : α}
    {check : Datum → Checked α} {fields : Fields} :
    withDefault name default check fields = accepted a
      ↔ lookup fields name = none ∧ a = default
        ∨ ∃ d, lookup fields name = some d ∧ check d = accepted a := by
  unfold withDefault
  split
  · next d h => simp [h, within_eq_accepted]
  · next h => simp [h, eq_comm]

theorem areOrdered_of_checkModifiers {d : Datum} {modifiers : List Modifier}
    (h : checkModifiers d = accepted modifiers) : Modifier.AreOrdered modifiers := by
  unfold checkModifiers at h
  split at h
  · next hkeys =>
    cases h
    exact Modifier.areOrdered_of_ofDatum hkeys
  · cases h
  · cases h

theorem areOrdered_of_modifiersField {fields : Fields} {modifiers : List Modifier}
    (h : modifiersField fields = accepted modifiers) : Modifier.AreOrdered modifiers := by
  obtain ⟨-, rfl⟩ | ⟨d, -, hd⟩ := withDefault_eq_accepted.mp h
  · exact ⟨.nil, List.nil_sublist _⟩
  · exact areOrdered_of_checkModifiers hd

theorem le_of_checkAtLeast {bound n : Nat} {d : Datum} (h : checkAtLeast bound d = accepted n) :
    bound ≤ n := by
  unfold checkAtLeast at h
  cases hd : checkInteger d with
  | accepted i =>
    rw [hd] at h
    change (if _ then _ else _) = _ at h
    split at h
    · next hle =>
      cases h
      exact (Int.le_toNat (by omega)).mpr hle
    · cases h
  | rejected vs =>
    rw [hd] at h
    cases h
  | broken fault =>
    rw [hd] at h
    cases h

theorem isNormal_of_checkClick {fields : Fields} {c : Click} (h : checkClick fields = accepted c) :
    c.IsNormal := by
  obtain ⟨_, position, hfour, -, rfl⟩ := seq_eq_accepted.mp h
  obtain ⟨_, count, hthree, hcount, rfl⟩ := seq_eq_accepted.mp hfour
  obtain ⟨_, modifiers, htwo, hmodifiers, rfl⟩ := seq_eq_accepted.mp hthree
  obtain ⟨_, button, hone, -, rfl⟩ := seq_eq_accepted.mp htwo
  obtain ⟨selector, -, rfl⟩ := map_eq_accepted.mp hone
  refine ⟨areOrdered_of_modifiersField hmodifiers, ?_, button_name_mem button⟩
  obtain ⟨-, rfl⟩ | ⟨d, -, hd⟩ := withDefault_eq_accepted.mp hcount
  · exact Nat.le_refl 1
  · exact le_of_checkAtLeast hd

theorem isNormal_of_operation : ∀ o ∈ operations, ∀ fields operation,
    o.2 fields = accepted operation → operation.IsNormal := by
  simp only [operations, List.forall_mem_cons, List.not_mem_nil, false_implies, implies_true,
    and_true]
  refine ⟨?openPage, ?closePage, ?click, ?check, ?uncheck, ?fill, ?setInputFiles, ?press, ?navigate,
    ?select⟩
  all_goals intro fields operation h
  case closePage =>
    cases h
    trivial
  case openPage | check | uncheck | navigate =>
    obtain ⟨_, -, rfl⟩ := map_eq_accepted.mp h
    trivial
  case fill | setInputFiles | select =>
    obtain ⟨_, _, hfirst, -, rfl⟩ := seq_eq_accepted.mp h
    obtain ⟨_, -, rfl⟩ := map_eq_accepted.mp hfirst
    trivial
  case click =>
    obtain ⟨c, hc, rfl⟩ := map_eq_accepted.mp h
    exact isNormal_of_checkClick hc
  case press =>
    obtain ⟨_, modifiers, hkey, hmodifiers, rfl⟩ := seq_eq_accepted.mp h
    obtain ⟨_, key, hselector, -, rfl⟩ := seq_eq_accepted.mp hkey
    obtain ⟨selector, -, rfl⟩ := map_eq_accepted.mp hselector
    exact areOrdered_of_modifiersField hmodifiers

theorem isNormal_of_checkAction {d : Datum} {a : Action} (h : checkAction d = accepted a) :
    a.operation.IsNormal := by
  obtain ⟨fields, check, -, hchosen, ha⟩ := checkTagged_eq_accepted.mp h
  obtain ⟨o, ho, rfl⟩ := List.mem_map.mp (chosen?_eq_some hchosen).1
  obtain ⟨_, operation, hcommon, hoperation, rfl⟩ := seq_eq_accepted.mp ha
  obtain ⟨_, signals, hname, -, rfl⟩ := seq_eq_accepted.mp hcommon
  obtain ⟨_, -, rfl⟩ := map_eq_accepted.mp hname
  exact isNormal_of_operation o ho fields operation hoperation

theorem isNormal_of_checkEntry {d : Datum} {e : Entry} (h : checkEntry d = accepted e) :
    e.action.operation.IsNormal := by
  obtain ⟨fields, -, hentry⟩ := checkModel_eq_accepted.mp h
  obtain ⟨_, action, hframe, haction, rfl⟩ := seq_eq_accepted.mp hentry
  obtain ⟨frame, -, rfl⟩ := map_eq_accepted.mp hframe
  obtain ⟨d, -, hd⟩ := required_eq_accepted.mp haction
  exact isNormal_of_checkAction hd

/-! ## What is written out -/

/-- The entries of a record. -/
def entriesOf (fields : List (String × Datum)) : Fields := fields.map fun f => (.text f.1, f.2)

theorem required_of_lookup {α : Type} {name : String} {a : α} {check : Datum → Checked α}
    {fields : Fields} {d : Datum} (hd : lookup fields name = some d) (h : check d = accepted a) :
    required name check fields = accepted a :=
  required_eq_accepted.mpr ⟨d, hd, h⟩

theorem withDefault_of_lookup {α : Type} {name : String} {default a : α} {check : Datum → Checked α}
    {fields : Fields} {d : Datum} (hd : lookup fields name = some d) (h : check d = accepted a) :
    withDefault name default check fields = accepted a :=
  withDefault_eq_accepted.mpr (.inr ⟨d, hd, h⟩)

theorem checkItems_map {α : Type} {check : Datum → Checked α} {write : α → Datum}
    (h : ∀ a, check (write a) = accepted a) (index : Nat) (values : List α) :
    checkItems check index (values.map write) = accepted values := by
  induction values generalizing index with
  | nil => rfl
  | cons a values ih =>
    rw [List.map_cons, checkItems, h, ih]
    rfl

theorem checkSignal_toDatum (s : Signal) : checkSignal s.toDatum = accepted s := by
  cases s <;> rfl

theorem checkList_textsDatum (texts : List String) :
    checkList checkText (textsDatum texts) = accepted texts := by
  have htext (s : String) : checkText (.text s) = accepted s := rfl
  exact checkItems_map htext 0 texts

theorem checkList_signalsDatum (signals : List Signal) :
    checkList checkSignal (signalsDatum signals) = accepted signals :=
  checkItems_map checkSignal_toDatum 0 signals

theorem checkOption_text (text : Option String) :
    checkOption checkText (optionDatum .text text) = accepted text := by
  cases text <;> rfl

theorem checkModifiers_modifiersDatum {modifiers : List Modifier}
    (h : Modifier.AreOrdered modifiers) :
    checkModifiers (modifiersDatum modifiers) = accepted modifiers := by
  rw [checkModifiers, Modifier.ofDatum_modifiersDatum h]

theorem checkAtLeast_int {bound n : Nat} (h : bound ≤ n) :
    checkAtLeast bound (.int n) = accepted n :=
  if_pos (Int.ofNat_le.mpr h)

theorem checkButton_name (b : Button) : checkButton (.text b.name) = accepted b := by
  cases b <;> rfl

theorem checkPosition_toDatum (position : Option Point) :
    checkOption checkPoint (optionDatum Point.toDatum position) = accepted position := by
  cases position <;> rfl

theorem checkFrame_toDatum (f : Frame) : checkFrame f.toDatum = accepted f := by
  let fields := entriesOf f.fields
  have halias : required "pageAlias" checkText fields = accepted f.pageAlias :=
    required_of_lookup rfl rfl
  have hmain : withDefault "isMainFrame" true checkBoolean fields = accepted f.isMainFrame :=
    withDefault_of_lookup rfl rfl
  have hchain : withDefault "selectorsChain" [] (checkList checkText) fields
      = accepted f.selectorsChain := withDefault_of_lookup rfl (checkList_textsDatum _)
  have hname : withDefault "name" none (checkOption checkText) fields = accepted f.name :=
    withDefault_of_lookup rfl (checkOption_text _)
  have hurl : withDefault "url" none (checkOption checkText) fields = accepted f.url :=
    withDefault_of_lookup rfl (checkOption_text _)
  change checkFrameFields fields = _
  rw [checkFrameFields, halias, hmain, hchain, hname, hurl]
  rfl

/-! ## Actions -/

/-- The fields of an action, those of its operation included. -/
def fieldsOf (operation : Operation) (signals : List Signal) : List (String × Datum) :=
  [("name", .text operation.kind), ("signals", signalsDatum signals)] ++ operation.fields

theorem checkClick_fieldsOf {c : Click} (h : c.IsNormal) (signals : List Signal) :
    checkClick (entriesOf (fieldsOf (.click c) signals)) = accepted c := by
  let fields := entriesOf (fieldsOf (.click c) signals)
  have hselector : textField "selector" fields = accepted c.selector := required_of_lookup rfl rfl
  have hbutton : withDefault "button" .left checkButton fields = accepted c.button :=
    withDefault_of_lookup rfl (checkButton_name _)
  have hmodifiers : modifiersField fields = accepted c.modifiers :=
    withDefault_of_lookup rfl (checkModifiers_modifiersDatum h.modifiers)
  have hcount : withDefault "clickCount" 1 (checkAtLeast 1) fields = accepted c.clickCount :=
    withDefault_of_lookup rfl (checkAtLeast_int h.clickCount)
  have hposition : withDefault "position" none (checkOption checkPoint) fields
      = accepted c.position := withDefault_of_lookup rfl (checkPosition_toDatum _)
  change checkClick fields = _
  rw [checkClick, hselector, hbutton, hmodifiers, hcount, hposition]
  rfl

theorem required_text {name s : String} {fields : Fields}
    (h : lookup fields name = some (.text s)) : textField name fields = accepted s :=
  required_of_lookup h rfl

theorem textsField_texts {name : String} {texts : List String} {fields : Fields}
    (h : lookup fields name = some (textsDatum texts)) : textsField name fields = accepted texts :=
  withDefault_of_lookup h (checkList_textsDatum texts)

/-- Of each kind there is one check, and it reads what is written of that kind. -/
theorem exists_operation {operation : Operation} (h : operation.IsNormal) (signals : List Signal) :
    ∃ o ∈ operations, o.1 = operation.kind
      ∧ o.2 (entriesOf (fieldsOf operation signals)) = accepted operation := by
  cases operation with
  | openPage url =>
    refine ⟨operations[0], List.getElem_mem _, rfl, map_eq_accepted.mpr ⟨url, ?_, rfl⟩⟩
    exact withDefault_of_lookup rfl rfl
  | closePage => exact ⟨operations[1], List.getElem_mem _, rfl, rfl⟩
  | click c =>
    refine ⟨operations[2], List.getElem_mem _, rfl, map_eq_accepted.mpr ⟨c, ?_, rfl⟩⟩
    exact checkClick_fieldsOf h signals
  | check selector =>
    refine ⟨operations[3], List.getElem_mem _, rfl, map_eq_accepted.mpr ⟨selector, ?_, rfl⟩⟩
    exact required_text rfl
  | uncheck selector =>
    refine ⟨operations[4], List.getElem_mem _, rfl, map_eq_accepted.mpr ⟨selector, ?_, rfl⟩⟩
    exact required_text rfl
  | fill selector text =>
    refine ⟨operations[5], List.getElem_mem _, rfl, seq_eq_accepted.mpr ⟨_, text, ?_, ?_, rfl⟩⟩
    · exact map_eq_accepted.mpr ⟨selector, required_text rfl, rfl⟩
    · exact required_text rfl
  | setInputFiles selector files =>
    refine ⟨operations[6], List.getElem_mem _, rfl, seq_eq_accepted.mpr ⟨_, files, ?_, ?_, rfl⟩⟩
    · exact map_eq_accepted.mpr ⟨selector, required_text rfl, rfl⟩
    · exact textsField_texts rfl
  | press selector key modifiers =>
    refine ⟨operations[7], List.getElem_mem _, rfl, seq_eq_accepted.mpr ⟨_, modifiers, ?_, ?_, rfl⟩⟩
    · refine seq_eq_accepted.mpr ⟨_, key, ?_, required_text rfl, rfl⟩
      exact map_eq_accepted.mpr ⟨selector, required_text rfl, rfl⟩
    · exact withDefault_of_lookup rfl (checkModifiers_modifiersDatum h)
  | navigate url =>
    refine ⟨operations[8], List.getElem_mem _, rfl, map_eq_accepted.mpr ⟨url, ?_, rfl⟩⟩
    exact required_text rfl
  | select selector options =>
    refine ⟨operations[9], List.getElem_mem _, rfl, seq_eq_accepted.mpr ⟨_, options, ?_, ?_, rfl⟩⟩
    · exact map_eq_accepted.mpr ⟨selector, required_text rfl, rfl⟩
    · exact textsField_texts rfl

theorem nodup_kinds : kinds.Nodup := by decide

/-- The check that a kind chooses is the one of that kind. -/
theorem chosen?_of_mem_operations {o : String × (Fields → Checked Operation)}
    (ho : o ∈ operations) {fields : Fields} (hname : lookup fields "name" = some (.text o.1)) :
    chosen? actions fields = some (o.1, checkFields o.1 o.2) := by
  have hmem : (o.1, checkFields o.1 o.2) ∈ actions := List.mem_map.mpr ⟨o, ho, rfl⟩
  have hkind : o.1 ∈ kinds := by
    rw [← actions_map_fst]
    exact List.mem_map.mpr ⟨_, hmem, rfl⟩
  obtain ⟨a, hchosen, ha⟩ := exists_chosen?_actions hname hkind
  have hnodup : (actions.map Prod.fst).Nodup := by
    rw [actions_map_fst]
    exact nodup_kinds
  rw [hchosen, List.inj_on_of_nodup_map hnodup (chosen?_eq_some hchosen).1 hmem ha]

theorem ownName_of_lookup {name : String} {fields : Fields}
    (h : lookup fields "name" = some (.text name)) : ownName name fields = accepted () := by
  apply withDefault_of_lookup h
  simp [checkChoice]

theorem checkAction_toDatum {a : Action} (h : a.operation.IsNormal) :
    checkAction a.toDatum = accepted a := by
  obtain ⟨operation, signals⟩ := a
  let fields := entriesOf (fieldsOf operation signals)
  obtain ⟨o, ho, hkind, hoperation⟩ := exists_operation h signals
  have hname : lookup fields "name" = some (.text o.1) := by
    rw [hkind]
    rfl
  have hsignals : withDefault "signals" [] (checkList checkSignal) fields = accepted signals :=
    withDefault_of_lookup rfl (checkList_signalsDatum signals)
  refine checkTagged_eq_accepted.mpr ⟨fields, _, rfl, chosen?_of_mem_operations ho hname, ?_⟩
  change checkFields o.1 o.2 fields = _
  rw [checkFields, ownName_of_lookup hname, hsignals, hoperation]
  rfl

/-! ## Entries and recordings -/

theorem checkEntry_toDatum {e : Entry} (h : e.action.operation.IsNormal) :
    checkEntry e.toDatum = accepted e := by
  let fields := entriesOf [("frame", e.frame.toDatum), ("action", e.action.toDatum)]
  have hframe : required "frame" checkFrame fields = accepted e.frame :=
    required_of_lookup rfl (checkFrame_toDatum e.frame)
  have haction : required "action" checkAction fields = accepted e.action :=
    required_of_lookup rfl (checkAction_toDatum h)
  change checkEntryFields fields = _
  rw [checkEntryFields, hframe, haction]
  rfl

theorem ofDatum_eq_ok {d : Datum} {recording : List Entry} (h : ofDatum d = .ok recording) :
    ∃ items, d.view = .list items
      ∧ List.Forall₂ (fun item e => checkEntry item = .accepted e) items recording := by
  by_cases hlist : ∃ items, d.view = .list items
  · obtain ⟨items, hitems⟩ := hlist
    rw [ofDatum_of_list hitems] at h
    exact ⟨items, hitems, isTraversal_entriesFrom.eq_ok_iff.mp h⟩
  · obtain ⟨kind, hkind⟩ := ofDatum_of_not_list (not_exists.mp hlist)
    rw [hkind] at h
    cases h

theorem isNormal_of_ofDatum {d : Datum} {recording : List Entry} (h : ofDatum d = .ok recording) :
    ∀ e ∈ recording, e.action.operation.IsNormal := by
  obtain ⟨items, -, hall⟩ := ofDatum_eq_ok h
  have hboth : List.Forall₂
      (fun e item => e.action.operation.IsNormal ∧ checkEntry item = .accepted e)
      recording items := hall.flip.imp fun e item hitem => ⟨isNormal_of_checkEntry hitem, hitem⟩
  exact ((List.forall₂_and_left _ _).mp hboth).1

/-- Entries that are written out with all their fields are read as they are. -/
theorem ofDatum_map_toDatum {recording : List Entry}
    (h : ∀ e ∈ recording, e.action.operation.IsNormal) :
    ofDatum (.list (recording.map Entry.toDatum)) = .ok recording := by
  rw [ofDatum_of_list rfl, isTraversal_entriesFrom.eq_ok_iff, List.forall₂_map_left_iff,
    List.forall₂_same]
  intro e he
  exact checkEntry_toDatum (h e he)

/-- What has been read from data is read again, as it is, from its own fields, and the keys and
counts in it are as they are written. -/
theorem ofDatum_toDatum {d : Datum} {recording : List Entry} (h : ofDatum d = .ok recording) :
    ofDatum (.list (recording.map Entry.toDatum)) = .ok recording
      ∧ (∀ e ∈ recording, ∀ c, e.action.operation = .click c → c.IsNormal)
      ∧ ∀ e ∈ recording, ∀ selector key modifiers,
        e.action.operation = .press selector key modifiers → Modifier.AreOrdered modifiers := by
  have hnormal := isNormal_of_ofDatum h
  refine ⟨ofDatum_map_toDatum hnormal, ?_, ?_⟩
  · intro e he c hc
    have hoperation := hnormal e he
    rwa [hc] at hoperation
  · intro e he selector key modifiers hpress
    have hoperation := hnormal e he
    rwa [hpress] at hoperation

/-- A click in another spelling: keys as a mask, a count and a truth value as texts. -/
def spelled : Datum :=
  record [
    ("frame", record [("pageAlias", .text "page"), ("isMainFrame", .text "No")]),
    ("action", record [("name", .text "click"), ("selector", .text "#a"), ("modifiers", .int (-7)),
      ("clickCount", .text "+03")])]

def clicked : Entry :=
  ⟨⟨"page", false, [], none, none⟩, ⟨.click ⟨"#a", .left, [.altKey, .shiftKey], 3, none⟩, []⟩⟩

theorem ofDatum_toDatum_spelled :
    ofDatum (.list [spelled]) = .ok [clicked]
      ∧ ofDatum (.list [clicked.toDatum]) = .ok [clicked] := by
  have hspelled : ofDatum (.list [spelled]) = .ok [clicked] := by rfl
  exact ⟨hspelled, (ofDatum_toDatum hspelled).1⟩

end Retrace.Recording
