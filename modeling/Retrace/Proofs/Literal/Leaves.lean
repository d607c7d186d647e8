import Retrace.Proofs.Literal.RoundTrip
import Retrace.Proofs.Result
import Retrace.Script.Fault

/-!
# What has no literal

Lists, tuples and dictionaries hold leaves, at any depth. A datum has a literal
exactly when all of its leaves have one. Otherwise the first leaf without one,
from left to right, is at fault, and the message names its kind and shows it.
-/

namespace Retrace.Literal

open Numeral Result

/-- Data of all kinds, at any depth. Whole numbers are not too long to be written and
dictionaries have texts for keys. -/
inductive IsTree : Datum → Prop
  | none : IsTree .none
  | bool (b : Bool) : IsTree (.bool b)
  | int (n : Int) (h : n.natAbs < 10 ^ digitLimit) : IsTree (.int n)
  | double (x : Double) : IsTree (.double x)
  | text (s : String) : IsTree (.text s)
  | brokenText (points : List Nat) : IsTree (.brokenText points)
  | bytes (bs : List UInt8) : IsTree (.bytes bs)
  | set (items : List Datum) (h : ∀ d ∈ items, IsTree d) : IsTree (.set items)
  | complex (re im : Double) : IsTree (.complex re im)
  | ellipsis : IsTree .ellipsis
  | date (value : Calendar.Date) : IsTree (.date value)
  | moment (value : Calendar.Moment) : IsTree (.moment value)
  | object (kind form : String) : IsTree (.object kind form)
  | list (items : List Datum) (h : ∀ d ∈ items, IsTree d) : IsTree (.list items)
  | tuple (items : List Datum) (h : ∀ d ∈ items, IsTree d) : IsTree (.tuple items)
  | dict (entries : List (String × Datum)) (h : ∀ e ∈ entries, IsTree e.2) :
    IsTree (.dict (named entries))
  | orderedDict (entries : List (String × Datum)) (h : ∀ e ∈ entries, IsTree e.2) :
    IsTree (.orderedDict (named entries))

mutual

/-- What is found in a datum, from left to right, when lists, tuples and the values of
dictionaries are taken apart. -/
def leaves : Datum → List Datum
  | .list items | .tuple items => leavesOfAll items
  | .dict entries | .orderedDict entries => leavesOfEntries entries
  | d => [d]

def leavesOfAll : List Datum → List Datum
  | [] => []
  | d :: rest => leaves d ++ leavesOfAll rest

def leavesOfEntries : List (Datum × Datum) → List Datum
  | [] => []
  | (_, d) :: rest => leaves d ++ leavesOfEntries rest

end

/-- The leaves that have a literal: of the doubles, those that are finite. -/
def isSupported : Datum → Bool
  | .none | .bool _ | .int _ | .text _ | .brokenText _ => true
  | .double x => x.isFinite
  | _ => false

/-! ## Data that can be shown -/

theorem areShowable_of_forall {items : List Datum} (h : ∀ d ∈ items, isShowable d = true) :
    areShowable items = true := by
  induction items with
  | nil => rfl
  | cons d items ih =>
    obtain ⟨hd, hitems⟩ := List.forall_mem_cons.mp h
    rw [areShowable, hd, ih hitems]
    rfl

theorem entriesAreShowable_of_forall {entries : List (String × Datum)}
    (h : ∀ e ∈ entries, isShowable e.2 = true) : entriesAreShowable (named entries) = true := by
  induction entries with
  | nil => rfl
  | cons e entries ih =>
    obtain ⟨he, hentries⟩ := List.forall_mem_cons.mp h
    rw [named, List.map_cons, entriesAreShowable, he, ← named, ih hentries]
    rfl

theorem isShowable_of_isTree {d : Datum} (h : IsTree d) : isShowable d = true := by
  induction h with
  | int n h =>
    have hwrite := writeInteger?_of_lt h
    rw [isShowable]
    generalize writeInteger? n = written at hwrite ⊢
    rw [hwrite]
    rfl
  | set items _ ih => exact areShowable_of_forall ih
  | list items _ ih => exact areShowable_of_forall ih
  | tuple items _ ih => exact areShowable_of_forall ih
  | dict entries _ ih => exact entriesAreShowable_of_forall ih
  | orderedDict entries _ ih => exact entriesAreShowable_of_forall ih
  | _ => rfl

/-! ## The first leaf at fault -/

/-- The fault of the first of some leaves that has no literal. -/
def firstFault (leaves : List Datum) : Option Fault :=
  (leaves.find? fun leaf => !isSupported leaf).map .unsupported

theorem firstFault_append (xs ys : List Datum) :
    firstFault (xs ++ ys) = (firstFault xs).or (firstFault ys) := by
  rw [firstFault, List.find?_append, Option.map_or]
  rfl

theorem firstFault_eq_some_iff {xs : List Datum} {fault : Fault} :
    firstFault xs = some fault ↔ ∃ before leaf after, xs = before ++ leaf :: after
      ∧ (∀ x ∈ before, isSupported x = true) ∧ isSupported leaf = false
      ∧ fault = .unsupported leaf := by
  simp only [firstFault, Option.map_eq_some_iff, List.find?_eq_some_iff_append, Bool.not_not,
    Bool.not_eq_true', @eq_comm _ _ fault]
  constructor
  · rintro ⟨leaf, ⟨hleaf, before, after, hxs, hbefore⟩, hfault⟩
    exact ⟨before, leaf, after, hxs, hbefore, hleaf, hfault⟩
  · rintro ⟨before, leaf, after, hxs, hbefore, hleaf, hfault⟩
    exact ⟨leaf, ⟨hleaf, before, after, hxs, hbefore⟩, hfault⟩

theorem fault?_ofData [Text.View] {items : List Datum}
    (h : ∀ d ∈ items, fault? (ofDatum d) = firstFault (leaves d)) :
    fault? (ofData items) = firstFault (leavesOfAll items) := by
  induction items with
  | nil => rfl
  | cons d items ih =>
    obtain ⟨hd, hitems⟩ := List.forall_mem_cons.mp h
    rw [leavesOfAll, firstFault_append, ← hd, ← ih hitems, ofData]
    cases ofDatum d with
    | error fault => rfl
    | ok s => cases ofData items <;> rfl

/-- A text under a key is written whatever it holds, so the faults are those of the values. -/
theorem fault?_ofEntries [Text.View] {entries : List (String × Datum)}
    (h : ∀ e ∈ entries, fault? (ofDatum e.2) = firstFault (leaves e.2)) :
    fault? (ofEntries (named entries)) = firstFault (leavesOfEntries (named entries)) := by
  induction entries with
  | nil => rfl
  | cons e entries ih =>
    obtain ⟨he, hentries⟩ := List.forall_mem_cons.mp h
    rw [named, List.map_cons, leavesOfEntries, firstFault_append, ← named, ← he, ← ih hentries,
      ofEntries]
    cases ofDatum e.2 with
    | error fault => rfl
    | ok s => cases ofEntries (named entries) <;> rfl

theorem fault?_ofDatum [Text.View] {d : Datum} (h : IsTree d) :
    fault? (ofDatum d) = firstFault (leaves d) := by
  induction h with
  | int n h =>
    rw [ofDatum, ofInt_of_lt h]
    rfl
  | double x =>
    rw [ofDatum]
    cases hx : x.isFinite with
    | true =>
      obtain ⟨s, hs⟩ := ofDouble_of_isFinite hx
      simp [hs, fault?, firstFault, leaves, isSupported, hx]
    | false =>
      simp [ofDouble_of_not_isFinite hx, fault?, firstFault, leaves, isSupported, hx]
  | set items h =>
    have hfault : ofDatum (.set items) = .error (unsupported (.set items)) := rfl
    rw [hfault, unsupported, isShowable_of_isTree (.set items h)]
    rfl
  | list items _ ih =>
    rw [leaves, ← fault?_ofData ih]
    exact fault?_map _ (ofData items)
  | tuple items _ ih =>
    rw [leaves, ← fault?_ofData ih]
    exact fault?_map _ (ofData items)
  | dict entries _ ih =>
    rw [leaves, ← fault?_ofEntries ih]
    exact fault?_map _ (ofEntries (named entries))
  | orderedDict entries _ ih =>
    rw [leaves, ← fault?_ofEntries ih]
    exact fault?_map _ (ofEntries (named entries))
  | _ => rfl

theorem message_ofLiteral_unsupported (leaf : Datum) :
    (Script.Fault.ofLiteral (.unsupported leaf)).message
      = "リテラルに変換できない値です: " ++ leaf.kindName ++ " " ++ leaf.shown :=
  String.append_empty

/-- A datum has a literal exactly when all of its leaves have one. If not, the fault is that of
the first leaf that has none, and its message names the kind of this leaf and shows it. -/
theorem ofDatum_unsupported [Text.View] {d : Datum} (h : IsTree d) :
    ((∃ s, ofDatum d = .ok s) ↔ ∀ leaf ∈ leaves d, isSupported leaf = true)
      ∧ ∀ fault, ofDatum d = .error fault ↔ ∃ before leaf after,
        leaves d = before ++ leaf :: after ∧ (∀ x ∈ before, isSupported x = true)
          ∧ isSupported leaf = false ∧ fault = .unsupported leaf
          ∧ (Script.Fault.ofLiteral fault).message
            = "リテラルに変換できない値です: " ++ leaf.kindName ++ " " ++ leaf.shown := by
  have hfault := fault?_ofDatum h
  constructor
  · constructor
    · rintro ⟨s, hs⟩
      rw [hs] at hfault
      simpa [fault?, firstFault] using hfault.symm
    · intro hleaves
      have hnone : firstFault (leaves d) = none := by
        simpa [firstFault] using hleaves
      rw [hnone] at hfault
      cases hd : ofDatum d with
      | ok s => exact ⟨s, rfl⟩
      | error fault =>
        rw [hd] at hfault
        cases hfault
  · intro fault
    rw [← fault?_eq_some_iff, hfault, firstFault_eq_some_iff]
    constructor
    · rintro ⟨before, leaf, after, hsplit, hbefore, hleaf, rfl⟩
      exact ⟨before, leaf, after, hsplit, hbefore, hleaf, rfl, message_ofLiteral_unsupported leaf⟩
    · rintro ⟨before, leaf, after, hsplit, hbefore, hleaf, hcause, -⟩
      exact ⟨before, leaf, after, hsplit, hbefore, hleaf, hcause⟩

/-- The set stands before the infinite double, and the text under a key is not a leaf. -/
theorem ofDatum_unsupported_nested :
    IsTree (.list [.int 3, .dict (named [("a", .text "b"), ("c", .set [.ellipsis])]),
        .tuple [.double (.infinity true)]])
      ∧ ofDatum (.list [.int 3, .dict (named [("a", .text "b"), ("c", .set [.ellipsis])]),
          .tuple [.double (.infinity true)]])
        = .error (.unsupported (.set [.ellipsis])) := by
  have hset : IsTree (.set [.ellipsis]) := .set _ (by simpa using .ellipsis)
  have hdict : IsTree (.dict (named [("a", .text "b"), ("c", .set [.ellipsis])])) :=
    .dict _ (by simpa using ⟨.text "b", hset⟩)
  have htuple : IsTree (.tuple [.double (.infinity true)]) := .tuple _ (by simpa using .double _)
  have hthree : (3 : Int).natAbs < 10 ^ digitLimit :=
    Nat.lt_of_lt_of_le (by decide) (Nat.le_self_pow (by decide) 10)
  have htree : IsTree (.list [.int 3, .dict (named [("a", .text "b"), ("c", .set [.ellipsis])]),
      .tuple [.double (.infinity true)]]) :=
    .list _ (by simpa using ⟨.int 3 hthree, hdict, htuple⟩)
  exact ⟨htree, ((ofDatum_unsupported htree).2 _).mpr ⟨[.int 3, .text "b"], .set [.ellipsis],
    [.double (.infinity true)], rfl, by simp [isSupported], rfl, rfl,
    message_ofLiteral_unsupported _⟩⟩

end Retrace.Literal
