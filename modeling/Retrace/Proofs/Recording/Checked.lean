import Retrace.Recording.Schema

/-!
# How checks end

A check is accepted just if all checks that it is made of are accepted, and it
breaks off just if one of them does, with the fault of the first one. Checks of
scalars never break off: only modifier keys can.
-/

namespace Retrace.Recording

namespace Checked

variable {α β : Type}

/-- Why a check was broken off, if it was. -/
def fault? : Checked α → Option Modifier.Fault
  | broken fault => some fault
  | _ => none

theorem fault?_eq_some_iff {x : Checked α} {fault : Modifier.Fault} :
    x.fault? = some fault ↔ x = broken fault := by
  cases x <;> simp [fault?]

/-! ## Checks that break off -/

@[simp] theorem fault?_accepted (a : α) : (accepted a).fault? = none := rfl

@[simp] theorem fault?_rejected (vs : List Violation) : (rejected vs : Checked α).fault? = none :=
  rfl

@[simp] theorem fault?_broken (fault : Modifier.Fault) :
    (broken fault : Checked α).fault? = some fault := rfl

@[simp] theorem fault?_reject (problem : Problem) : (reject problem : Checked α).fault? = none :=
  rfl

@[simp] theorem fault?_map (f : α → β) (x : Checked α) : (f <$> x).fault? = x.fault? := by
  cases x <;> rfl

/-- Of two checks side by side the first one that breaks counts, also behind violations. -/
@[simp] theorem fault?_seq (f : Checked (α → β)) (x : Checked α) :
    (f <*> x).fault? = f.fault?.or x.fault? := by
  cases f <;> cases x <;> rfl

@[simp] theorem fault?_seqRight (x : Checked α) (y : Checked β) :
    (x *> y).fault? = x.fault?.or y.fault? := by
  cases x <;> cases y <;> rfl

@[simp] theorem fault?_within (part : String) (x : Checked α) :
    (x.within part).fault? = x.fault? := by
  cases x <;> rfl

/-! ## Checks that are accepted -/

theorem map_eq_accepted {f : α → β} {x : Checked α} {b : β} :
    f <$> x = accepted b ↔ ∃ a, x = accepted a ∧ f a = b := by
  cases x with
  | accepted a =>
    change accepted (f a) = accepted b ↔ _
    simp
  | rejected vs =>
    change rejected vs = accepted b ↔ _
    simp
  | broken fault =>
    change broken fault = accepted b ↔ _
    simp

theorem seq_eq_accepted {f : Checked (α → β)} {x : Checked α} {b : β} :
    f <*> x = accepted b ↔ ∃ g a, f = accepted g ∧ x = accepted a ∧ g a = b := by
  change f.apply (fun _ => x) = accepted b ↔ _
  cases f with
  | accepted g =>
    change g <$> x = accepted b ↔ _
    simp [map_eq_accepted]
  | rejected vs => cases x <;> simp [apply]
  | broken fault => simp [apply]

theorem within_eq_accepted {part : String} {x : Checked α} {a : α} :
    x.within part = accepted a ↔ x = accepted a := by
  cases x <;> simp [within]

end Checked

open Checked

/-! ## Scalars -/

section

variable {α : Type} {check : Datum → Checked α}

@[simp] theorem fault?_checkText (d : Datum) : (checkText d).fault? = none := by
  unfold checkText
  split
  · rfl
  · rfl
  · split <;> rfl
  · rfl

theorem fault?_checkItems (h : ∀ d, (check d).fault? = none) (index : Nat) (items : List Datum) :
    (checkItems check index items).fault? = none := by
  induction items generalizing index with
  | nil => rfl
  | cons d rest ih => simp [checkItems, h, ih]

@[simp] theorem fault?_checkList (h : ∀ d, (check d).fault? = none) (d : Datum) :
    (checkList check d).fault? = none := by
  unfold checkList
  split
  · exact fault?_checkItems h 0 _
  · rfl

@[simp] theorem fault?_checkOption (h : ∀ d, (check d).fault? = none) (d : Datum) :
    (checkOption check d).fault? = none := by
  unfold checkOption
  split
  · rfl
  · rw [fault?_map, h]

@[simp] theorem fault?_checkChoice (choices : List (String × α)) (d : Datum) :
    (checkChoice choices d).fault? = none := by
  unfold checkChoice
  split <;> rfl

theorem fault?_readDigits (negative : Bool) (digits : List Char) :
    (readDigits negative digits).fault? = none := by
  unfold readDigits
  split <;> rfl

theorem fault?_readBody (negative : Bool) (body : List Char) :
    (readBody negative body).fault? = none := by
  unfold readBody
  split
  · exact fault?_readDigits _ _
  · exact fault?_readDigits _ _
  · rfl

theorem fault?_readWholeText (s : List Char) : (readWholeText s).fault? = none := by
  unfold readWholeText
  split
  · rfl
  · split <;> exact fault?_readBody _ _

theorem fault?_wholeOfDouble (x : Double) : (wholeOfDouble x).fault? = none := by
  unfold wholeOfDouble
  split
  · rfl
  · split
    · rfl
    · split <;> rfl

theorem fault?_checkInteger (d : Datum) : (checkInteger d).fault? = none := by
  unfold checkInteger
  split
  · exact fault?_readWholeText _
  · rfl
  · split
    · rfl
    · rfl
    · exact fault?_wholeOfDouble _
    · rfl

@[simp] theorem fault?_checkAtLeast (bound : Nat) (d : Datum) :
    (checkAtLeast bound d).fault? = none := by
  unfold checkAtLeast
  have hinteger : (checkInteger d).fault? = none := fault?_checkInteger d
  cases h : checkInteger d with
  | accepted n =>
    change (if _ then _ else _ : Checked Nat).fault? = none
    split <;> rfl
  | rejected vs => rfl
  | broken fault =>
    rw [h] at hinteger
    cases hinteger

@[simp] theorem fault?_checkNumber (d : Datum) : (checkNumber d).fault? = none := by
  have htext (s : List Char) : (readNumberText s).fault? = none := by
    unfold readNumberText
    split
    · rfl
    · split <;> rfl
  unfold checkNumber
  split
  · exact htext _
  · rfl
  · split
    · rfl
    · rfl
    · dsimp only
      split <;> rfl
    · rfl

@[simp] theorem fault?_checkBoolean (d : Datum) : (checkBoolean d).fault? = none := by
  have hinteger (n : Int) : (booleanOfInt n).fault? = none := by
    unfold booleanOfInt
    split
    · rfl
    · split <;> rfl
  unfold checkBoolean
  split
  · unfold readBooleanText
    dsimp only
    split
    · rfl
    · split <;> rfl
  · rfl
  · split
    · rfl
    · split
      · exact hinteger _
      · rfl
    · split
      · exact hinteger _
      · rfl
    · rfl

/-! ## Fields -/

/-- The check of a field breaks off where its value's does. -/
@[simp] theorem fault?_required (name : String) (fields : Fields) :
    (required name check fields).fault? = (lookup fields name).bind fun d => (check d).fault? := by
  unfold required
  split
  · next d h => simp [h]
  · next h => simp [h]

@[simp] theorem fault?_withDefault (name : String) (default : α) (fields : Fields) :
    (withDefault name default check fields).fault?
      = (lookup fields name).bind fun d => (check d).fault? := by
  unfold withDefault
  split
  · next d h => simp [h]
  · next h => simp [h]

@[simp] theorem fault?_ownName (name : String) (fields : Fields) :
    (ownName name fields).fault? = none := by
  simp [ownName]

@[simp] theorem fault?_checkModel (model : String) (check : Fields → Checked α) (d : Datum) :
    (checkModel model check d).fault? = d.entries?.bind fun fields => (check fields).fault? := by
  unfold checkModel
  split
  · next fields h => simp [h]
  · next h => simp [h]

theorem required_eq_accepted {name : String} {fields : Fields} {a : α} :
    required name check fields = accepted a
      ↔ ∃ d, lookup fields name = some d ∧ check d = accepted a := by
  unfold required
  split
  · next d h => simp [h, within_eq_accepted]
  · next h => simp [h, within_eq_accepted, reject]

theorem checkModel_eq_accepted {model : String} {check : Fields → Checked α} {d : Datum} {a : α} :
    checkModel model check d = accepted a
      ↔ ∃ fields, d.entries? = some fields ∧ check fields = accepted a := by
  unfold checkModel
  split
  · next fields h => simp [h]
  · next h => simp [h, reject]

/-- What a field of a collection is, is told by its entries. -/
theorem field?_eq_bind (d : Datum) (name : String) :
    d.field? name = d.entries?.bind fun fields => lookup fields name := rfl

end

/-! ## Tags -/

section

variable {α : Type} {checks : List (String × (Fields → Checked α))} {d : Datum}

/-- The check with the tag that a collection has. -/
def chosen? (checks : List (String × (Fields → Checked α))) (fields : Fields) :
    Option (String × (Fields → Checked α)) :=
  (lookup fields "name").bind fun tag => checks.find? fun c => tag.text? == some c.1

theorem chosen?_eq_some {fields : Fields} {c : String × (Fields → Checked α)}
    (h : chosen? checks fields = some c) :
    c ∈ checks ∧ lookup fields "name" = some (.text c.1) := by
  obtain ⟨tag, htag, hc⟩ := Option.bind_eq_some_iff.mp h
  refine ⟨List.mem_of_find?_eq_some hc, ?_⟩
  have htext : tag.text? = some c.1 := by simpa using List.find?_some hc
  rw [htag]
  cases tag <;> simp_all [Datum.text?]

theorem fault?_checkTagged (checks : List (String × (Fields → Checked α))) (d : Datum) :
    (checkTagged checks d).fault?
      = d.entries?.bind fun fields =>
        (chosen? checks fields).bind fun c => (c.2 fields).fault? := by
  unfold checkTagged
  split
  · next fields h =>
    split
    · next htag => simp [h, chosen?, htag]
    · next tag htag =>
      split
      · next c hc => simp [h, chosen?, htag, hc]
      · next hc => simp [h, chosen?, htag, hc]
  · next h => simp [h]

theorem fault?_checkTagged_eq_none (h : ∀ c ∈ checks, ∀ fields, (c.2 fields).fault? = none)
    (d : Datum) : (checkTagged checks d).fault? = none := by
  rw [fault?_checkTagged, Option.bind_eq_none_iff]
  intro fields _
  rw [Option.bind_eq_none_iff]
  intro c hc
  exact h c (chosen?_eq_some hc).1 fields

theorem checkTagged_eq_accepted {a : α} :
    checkTagged checks d = accepted a
      ↔ ∃ fields c, d.entries? = some fields ∧ chosen? checks fields = some c
        ∧ c.2 fields = accepted a := by
  unfold checkTagged
  split
  · next fields h =>
    split
    · next htag => simp [h, chosen?, htag, reject]
    · next tag htag =>
      split
      · next c hc => simp [h, chosen?, htag, hc, within_eq_accepted, -Prod.exists]
      · next hc => simp [h, chosen?, htag, hc, reject]
  · next h => simp [h, reject]

end

end Retrace.Recording
