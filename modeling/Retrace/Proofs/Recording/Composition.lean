import Retrace.Proofs.Recording.Outcome

/-!
# Recordings one behind the other

Entries are read one by one, in their order, and none of them knows another: two
lists give what they give alone, and where the second one is refused, its fault
tells the place of the entry in the whole. An entry is refused for one reason
only, the first that applies: it names no kind of operation, it names one that
does not exist, or it is not what its schema says.
-/

namespace Retrace.Recording

/-! ## Places of faults -/

namespace Fault

/-- The fault of an entry that stands `n` places further on. -/
def later (n : Nat) : Fault → Fault
  | .unnamed index => .unnamed (index + n)
  | .unknownKind kind index => .unknownKind kind (index + n)
  | .invalid index kind violations => .invalid (index + n) kind violations
  | fault => fault

/-- The place of the entry that a fault is about. -/
def place? : Fault → Option Nat
  | .unnamed index => some index
  | .unknownKind _ index => some index
  | .invalid index _ _ => some index
  | _ => none

/-- A fault that holds a place, and tells it in a message which says the same everywhere else. -/
def TellsPlace (fault : Fault) : Prop :=
  ∃ place before after, ∀ n, (fault.later n).place? = some (place + n)
    ∧ (fault.later n).message = before ++ toString (place + n) ++ after

variable (index : Nat)

theorem message_unnamed : (unnamed index).message =
    "" ++ toString index ++ " 番目の要素に action.name がありません" := by
  rw [String.empty_append]
  rfl

theorem message_unknownKind (name : Datum) : (unknownKind name index).message =
    "未対応のアクション種別です: " ++ name.shown ++ "（" ++ toString index
      ++ " 番目のアクション）" := rfl

theorem message_invalid (kind : String) (violations : List Violation) :
    (invalid index kind violations).message =
    "" ++ toString index ++ (" 番目のアクション（" ++ (kind
      ++ ("）がスキーマに違反しています: " ++ violationsMessage violations))) := by
  rw [String.empty_append, ← String.append_assoc, ← String.append_assoc, ← String.append_assoc]
  rfl

theorem tellsPlace_of_place? {fault : Fault} {place : Nat} (h : fault.place? = some place) :
    fault.TellsPlace := by
  cases fault with
  | unnamed index => exact ⟨_, _, _, fun n => ⟨rfl, message_unnamed (index + n)⟩⟩
  | unknownKind name index =>
    exact ⟨_, _, _, fun n => ⟨rfl, message_unknownKind (index + n) name⟩⟩
  | invalid index kind violations =>
    exact ⟨_, _, _, fun n => ⟨rfl, message_invalid (index + n) kind violations⟩⟩
  | _ => cases h

theorem later_of_place?_eq_none {fault : Fault} (h : fault.place? = none) (n : Nat) :
    fault.later n = fault := by
  cases fault with
  | unnamed index => cases h
  | unknownKind kind index => cases h
  | invalid index kind violations => cases h
  | _ => rfl

end Fault

/-! ## Why an entry is refused -/

/-- An entry with an action that gives a text as the name of its kind. -/
def NamesKind (d name : Datum) : Prop :=
  ∃ action, d.field? "action" = some action ∧ action.field? "name" = some name
    ∧ name.isText = true

theorem claimedName?_eq_some_iff {d name : Datum} :
    claimedName? d = some name ↔ NamesKind d name := by
  constructor
  · intro h
    obtain ⟨h, htext⟩ := Option.filter_eq_some_iff.mp h
    obtain ⟨action, haction, hname⟩ := Option.bind_eq_some_iff.mp h
    exact ⟨action, haction, hname, htext⟩
  · rintro ⟨action, haction, hname, htext⟩
    exact claimedName?_eq_some haction hname htext

theorem claimedName?_eq_none_iff {d : Datum} :
    claimedName? d = none ↔ ¬ ∃ name, NamesKind d name := by
  simp only [← claimedName?_eq_some_iff, ← Option.isSome_iff_exists, Option.not_isSome_iff_eq_none]

/-- The fault of an entry at a place. What its schema says is looked at only if it names a kind,
and only if there is such a kind. -/
inductive RefusedFor (place : Nat) (d : Datum) : Fault → Prop
  | unnamed (h : ¬ ∃ name, NamesKind d name) : RefusedFor place d (.unnamed place)
  | unknownKind {name : Datum} (h : NamesKind d name) (hkind : ∀ kind ∈ kinds, name ≠ .text kind) :
    RefusedFor place d (.unknownKind name place)
  | invalid {kind : String} {violations : List Violation} (h : NamesKind d (.text kind))
    (hkind : kind ∈ kinds) (hcheck : checkEntry d = .rejected violations) :
    RefusedFor place d (.invalid place kind violations)
  | modifiers {kind : String} {fault : Modifier.Fault} (h : NamesKind d (.text kind))
    (hkind : kind ∈ kinds) (hcheck : checkEntry d = .broken fault) :
    RefusedFor place d (.modifiers fault)

theorem readEntry_of_not_namesKind {d : Datum} (h : ¬ ∃ name, NamesKind d name) (place : Nat) :
    readEntry place d = .error (.unnamed place) := by
  rw [readEntry, claimedName?_eq_none_iff.mpr h]

theorem readEntry_of_unknown {d name : Datum} (h : NamesKind d name)
    (hkind : ∀ kind ∈ kinds, name ≠ .text kind) (place : Nat) :
    readEntry place d = .error (.unknownKind name place) := by
  have hnone : (kinds.find? fun kind => name.text? == some kind) = none := by
    rw [List.find?_eq_none]
    intro kind hmem hsame
    apply hkind kind hmem
    cases name with
    | text s => simpa using hsame
    | _ => cases hsame
  simp only [readEntry, claimedName?_eq_some_iff.mpr h, hnone]

theorem readEntry_eq_error_iff {place : Nat} {d : Datum} {fault : Fault} :
    readEntry place d = .error fault ↔ RefusedFor place d fault := by
  constructor
  · intro hfault
    by_cases hnamed : ∃ name, NamesKind d name
    · obtain ⟨name, h⟩ := hnamed
      by_cases hkind : ∃ kind ∈ kinds, name = .text kind
      · obtain ⟨kind, hkind, rfl⟩ := hkind
        rw [readEntry_of_kind hkind (claimedName?_eq_some_iff.mpr h)] at hfault
        cases hcheck : checkEntry d with
        | accepted e =>
          rw [hcheck] at hfault
          cases hfault
        | rejected violations =>
          rw [hcheck] at hfault
          cases hfault
          exact .invalid h hkind hcheck
        | broken keys =>
          rw [hcheck] at hfault
          cases hfault
          exact .modifiers h hkind hcheck
      · push Not at hkind
        rw [readEntry_of_unknown h hkind] at hfault
        cases hfault
        exact .unknownKind h hkind
    · rw [readEntry_of_not_namesKind hnamed] at hfault
      cases hfault
      exact .unnamed hnamed
  · intro hrefused
    cases hrefused with
    | unnamed h => exact readEntry_of_not_namesKind h place
    | unknownKind h hkind => exact readEntry_of_unknown h hkind place
    | invalid h hkind hcheck =>
      rw [readEntry_of_kind hkind (claimedName?_eq_some_iff.mpr h), hcheck]
    | modifiers h hkind hcheck =>
      rw [readEntry_of_kind hkind (claimedName?_eq_some_iff.mpr h), hcheck]

/-! ## One list behind another -/

/-- The place of an entry makes no difference but to the place that its fault tells. -/
theorem readEntry_add (n place : Nat) (d : Datum) :
    readEntry (place + n) d = (readEntry place d).mapError (Fault.later n) := by
  cases hread : readEntry place d with
  | ok e =>
    rw [(readEntry_eq_ok_iff _ _ _).mpr ((readEntry_eq_ok_iff _ _ _).mp hread)]
    rfl
  | error fault =>
    change readEntry (place + n) d = .error (fault.later n)
    rw [readEntry_eq_error_iff] at hread ⊢
    cases hread with
    | unnamed h => exact .unnamed h
    | unknownKind h hkind => exact .unknownKind h hkind
    | invalid h hkind hcheck => exact .invalid h hkind hcheck
    | modifiers h hkind hcheck => exact .modifiers h hkind hcheck

theorem entriesFrom_length (xs ys : List Datum) :
    entriesFrom xs.length ys = (entriesFrom 0 ys).mapError (Fault.later xs.length) := by
  rw [← isTraversal_entriesFrom.run_add (readEntry_add xs.length), Nat.zero_add]

/-- Two lists, one behind the other, give the entries of the first and then those of the second.
A fault of the first is the fault of the whole; one of the second becomes so with the place
that its entry has in the whole, which is told in the message. Each entry is what its own check
accepts, and the fault is that of the first entry which is refused. -/
theorem ofDatum_append (xs ys : List Datum) :
    (ofDatum (.list (xs ++ ys)) = do
        let first ← ofDatum (.list xs)
        let second ← (ofDatum (.list ys)).mapError (Fault.later xs.length)
        return first ++ second)
      ∧ (∀ fault : Fault, fault.TellsPlace
          ∨ (fault.place? = none ∧ ∀ n, fault.later n = fault))
      ∧ (∀ recording, ofDatum (.list xs) = .ok recording ↔
          List.Forall₂ (fun d e => checkEntry d = .accepted e) xs recording)
      ∧ ∀ fault, ofDatum (.list xs) = .error fault ↔ ∃ before d after, xs = before ++ d :: after
          ∧ (∀ b ∈ before, ∃ e, checkEntry b = .accepted e)
          ∧ RefusedFor before.length d fault := by
  simp only [fun items => ofDatum_of_list (rfl : (Datum.list items).view = .list items)]
  refine ⟨?_, ?_, ?_, ?_⟩
  · rw [← entriesFrom_length, isTraversal_entriesFrom.append, Nat.zero_add]
  · intro fault
    cases h : fault.place? with
    | none => exact .inr ⟨rfl, Fault.later_of_place?_eq_none h⟩
    | some place => exact .inl (Fault.tellsPlace_of_place? h)
  · intro recording
    exact isTraversal_entriesFrom.eq_ok_iff
  · intro fault
    rw [isTraversal_entriesFrom.eq_error_iff]
    simp only [Nat.zero_add, readEntry_eq_error_iff]

end Retrace.Recording
