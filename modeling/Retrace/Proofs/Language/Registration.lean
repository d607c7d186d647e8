import Mathlib.Data.List.Sort
import Mathlib.Data.String.Basic
import Retrace.Language.Registry

/-!
# Registries over whole runs

Generators are offered to a registry one after the other, and things that are none.
The first generator under an identifier is registered and found from then on; every
other call fails and changes nothing. So identifiers stay distinct, and what is listed
is sorted strictly.

The registered identifiers are told to whoever asks for another one. A single empty
identifier cannot be told from none: both are told as none.
-/

namespace Retrace.Language

/-- What there is to register. -/
def Candidate.generator? {α : Type} : Candidate α → Option (Info × α)
  | .generator info value => some (info, value)
  | .other _ => none

/-- How registered identifiers are told. -/
def told (ids : List String) : String :=
  if ids = [] ∨ ids = [""] then "(なし)" else ", ".intercalate ids

namespace Registry

variable {α : Type}

/-- The registry after a call. One that fails leaves it as it is. -/
def offer (r : Registry α) (c : Candidate α) : Registry α :=
  match r.register c with
  | .ok r => r
  | .error _ => r

def offerAll (r : Registry α) (cs : List (Candidate α)) : Registry α := cs.foldl offer r

/-- A registry before the first call. -/
def IsStart (r : Registry α) : Prop :=
  r = {} ∨ ∃ style adapter f, r = (standard style adapter).map f

/-- A call behind others registers a generator. -/
def Registers (start : Registry α) (before : List (Candidate α)) (g : Info × α) : Prop :=
  ∃ r, (start.offerAll before).register (.generator g.1 g.2) = .ok r

/-- All that is seen of a registry says the same: what is listed, in the order of the identifiers,
is what is there and what is found. -/
structure IsConsistent (r : Registry α) : Prop where
  sorted : r.list.Pairwise fun a b => a.id < b.id
  has_iff_get : ∀ id, r.has id = true ↔ ∃ g, r.get id = .ok g
  has_iff_listed : ∀ id, r.has id = true ↔ ∃ info ∈ r.list, info.id = id

/-- No identifier is that of two generators. -/
def IsDistinct (r : Registry α) : Prop := (r.generators.map fun g => g.1.id).Nodup

section

variable {r r' start : Registry α} {c : Candidate α} {cs : List (Candidate α)} {g : Info × α}
  {id : String} {fault : Fault} {info : Info}

/-! ## One call -/

theorem has_iff_exists_mem : r.has id = true ↔ ∃ g ∈ r.generators, g.1.id = id := by
  rw [has, find?, List.find?_isSome]
  simp only [beq_iff_eq]

theorem register_of_taken {value : α} (h : r.has info.id = true) :
    r.register (.generator info value) = .error (.taken info.id) := by
  rw [register, if_pos h]

theorem register_of_free {value : α} (h : r.has info.id = false) :
    r.register (.generator info value) = .ok ⟨r.generators ++ [(info, value)]⟩ := by
  rw [register, if_neg (by simp [h])]

theorem register_eq_ok_iff : r.register c = .ok r' ↔
    ∃ g, c.generator? = some g ∧ r.has g.1.id = false ∧ r' = ⟨r.generators ++ [g]⟩ := by
  constructor
  · intro h
    cases c with
    | other kind => cases h
    | generator info value =>
      cases hhas : r.has info.id with
      | true =>
        rw [register_of_taken hhas] at h
        cases h
      | false =>
        rw [register_of_free hhas] at h
        cases h
        exact ⟨(info, value), rfl, hhas, rfl⟩
  · rintro ⟨g, hg, hhas, rfl⟩
    cases c with
    | other kind => cases hg
    | generator info value =>
      cases hg
      exact register_of_free hhas

theorem register_eq_error_iff : r.register c = .error fault ↔
    (∃ kind, c = .other kind ∧ fault = .notAGenerator kind)
      ∨ ∃ info value, c = .generator info value ∧ r.has info.id = true
        ∧ fault = .taken info.id := by
  constructor
  · intro h
    cases c with
    | other kind =>
      cases h
      exact .inl ⟨kind, rfl, rfl⟩
    | generator info value =>
      cases hhas : r.has info.id with
      | true =>
        rw [register_of_taken hhas] at h
        cases h
        exact .inr ⟨info, value, rfl, hhas, rfl⟩
      | false =>
        rw [register_of_free hhas] at h
        cases h
  · rintro (⟨kind, rfl, rfl⟩ | ⟨info, value, rfl, hhas, rfl⟩)
    · rfl
    · exact register_of_taken hhas

theorem offer_of_error (h : r.register c = .error fault) : r.offer c = r := by
  rw [offer, h]

/-- A call appends the generator that is offered, or it changes nothing, and then none is offered
or its identifier is taken. -/
theorem offer_cases (r : Registry α) (c : Candidate α) :
    (∃ g, c.generator? = some g ∧ r.has g.1.id = false ∧ r.offer c = ⟨r.generators ++ [g]⟩)
      ∨ (∀ g, c.generator? = some g → r.has g.1.id = true) ∧ r.offer c = r := by
  cases h : r.register c with
  | ok r' =>
    obtain ⟨g, hg, hfree, rfl⟩ := register_eq_ok_iff.mp h
    exact .inl ⟨g, hg, hfree, by rw [offer, h]⟩
  | error fault =>
    refine .inr ⟨?_, offer_of_error h⟩
    obtain ⟨kind, rfl, -⟩ | ⟨info, value, rfl, htaken, -⟩ := register_eq_error_iff.mp h
    · nofun
    · rintro g ⟨⟩
      exact htaken

/-- What is found after a call is what has been found before, or else what is offered. -/
theorem find?_offer (r : Registry α) (c : Candidate α) (id : String) :
    (r.offer c).find? id = (r.find? id).or (c.generator?.toList.find? fun g => g.1.id == id) := by
  obtain ⟨g, hg, -, heq⟩ | ⟨htaken, heq⟩ := offer_cases r c
  · rw [heq, hg, find?, List.find?_append, find?, Option.toList_some]
  · rw [heq]
    cases hfound : r.find? id with
    | some g => rfl
    | none =>
      rw [Option.none_or, eq_comm, List.find?_eq_none]
      intro g hg hid
      have hhas := htaken g (Option.mem_toList.mp hg)
      rw [eq_of_beq hid, has, hfound] at hhas
      cases hhas

theorem isDistinct_offer (h : r.IsDistinct) (c : Candidate α) : (r.offer c).IsDistinct := by
  obtain ⟨g, -, hfree, heq⟩ | ⟨-, heq⟩ := offer_cases r c
  · have hnot : g.1.id ∉ r.generators.map fun g => g.1.id := by
      intro hmem
      rw [← Bool.not_eq_true, has_iff_exists_mem] at hfree
      exact hfree (List.mem_map.mp hmem)
    rw [heq, IsDistinct, List.map_append]
    exact h.append (List.nodup_singleton _) (List.disjoint_singleton.mpr hnot)
  · rwa [heq]

/-! ## Runs -/

theorem offerAll_append (start : Registry α) (cs more : List (Candidate α)) :
    start.offerAll (cs ++ more) = (start.offerAll cs).offerAll more := List.foldl_append

/-- The first generator that is offered under an identifier is the one that is found. -/
theorem find?_offerAll (start : Registry α) (cs : List (Candidate α)) (id : String) :
    (start.offerAll cs).find? id
      = (start.generators ++ cs.filterMap Candidate.generator?).find? fun g => g.1.id == id := by
  induction cs generalizing start with
  | nil => rw [List.filterMap_nil, List.append_nil]; rfl
  | cons c cs ih =>
    have hoffered : (c :: cs).filterMap Candidate.generator?
        = c.generator?.toList ++ cs.filterMap Candidate.generator? := by
      cases c <;> rfl
    have hnext := find?_offer start c id
    rw [find?] at hnext
    rw [offerAll, List.foldl_cons, ← offerAll, ih, List.find?_append, hnext, hoffered,
      List.find?_append, List.find?_append, Option.or_assoc]
    rfl

theorem isDistinct_offerAll (h : start.IsDistinct) (cs : List (Candidate α)) :
    (start.offerAll cs).IsDistinct := by
  induction cs generalizing start with
  | nil => exact h
  | cons c cs ih => exact ih (isDistinct_offer h c)

theorem generator?_eq_some_iff : c.generator? = some g ↔ c = .generator g.1 g.2 := by
  cases c with
  | other kind => simp [Candidate.generator?]
  | generator info value => simp [Candidate.generator?, Prod.ext_iff]

theorem mem_offer_iff : g ∈ (r.offer c).generators ↔ g ∈ r.generators
    ∨ c = .generator g.1 g.2 ∧ ∃ r', r.register c = .ok r' := by
  obtain ⟨added, hadded, hfree, heq⟩ | ⟨htaken, heq⟩ := offer_cases r c
  · have hok : ∃ r', r.register c = .ok r' :=
      ⟨_, register_eq_ok_iff.mpr ⟨added, hadded, hfree, rfl⟩⟩
    rw [heq, List.mem_append, List.mem_singleton, ← generator?_eq_some_iff, hadded,
      Option.some_inj, eq_comm (a := g), and_iff_left hok]
  · rw [heq, iff_self_or]
    rintro ⟨hc, r', hok⟩
    obtain ⟨added, hadded, hfree, -⟩ := register_eq_ok_iff.mp hok
    rw [htaken added hadded] at hfree
    cases hfree

/-- What is registered at the end was there at the start, or a call has registered it. -/
theorem mem_offerAll_iff : g ∈ (start.offerAll cs).generators ↔ g ∈ start.generators
    ∨ ∃ before after, cs = before ++ .generator g.1 g.2 :: after ∧ start.Registers before g := by
  induction cs generalizing start with
  | nil => simp [offerAll]
  | cons c cs ih =>
    rw [offerAll, List.foldl_cons, ← offerAll, ih, mem_offer_iff, or_assoc]
    apply or_congr_right
    constructor
    · rintro (⟨rfl, hok⟩ | ⟨before, after, rfl, hregisters⟩)
      · exact ⟨[], cs, rfl, hok⟩
      · exact ⟨c :: before, after, rfl, hregisters⟩
    · rintro ⟨before, after, heq, hregisters⟩
      cases before with
      | nil =>
        obtain ⟨rfl, rfl⟩ := List.cons_eq_cons.mp heq
        exact .inl ⟨rfl, hregisters⟩
      | cons first before =>
        obtain ⟨rfl, rfl⟩ := List.cons_eq_cons.mp heq
        exact .inr ⟨before, after, rfl, hregisters⟩

/-! ## Starts -/

/-- The standard generators are registered by calls like any other. -/
theorem standard_eq_offerAll (style : Script.Style) (adapter : Script.Adapter) :
    standard style adapter = offerAll {}
      (Script.Language.all.map fun l => .generator (infoOf l) ⟨l, style, adapter⟩) := rfl

theorem isDistinct_empty : IsDistinct ({} : Registry α) := List.nodup_nil

theorem isDistinct_map {β : Type} {r : Registry β} (h : r.IsDistinct) (f : β → α) :
    (r.map f).IsDistinct := by
  rw [IsDistinct, map, List.map_map]
  exact h

theorem IsStart.isDistinct (h : start.IsStart) : start.IsDistinct := by
  obtain rfl | ⟨style, adapter, f, rfl⟩ := h
  · exact isDistinct_empty
  · rw [standard_eq_offerAll]
    exact isDistinct_map (isDistinct_offerAll isDistinct_empty _) f

/-! ## What is seen -/

theorem mem_list_iff : info ∈ r.list ↔ ∃ value, (info, value) ∈ r.generators := by
  rw [list, List.mem_mergeSort, List.mem_map]
  simp only [Prod.exists, exists_and_right, exists_eq_right]

theorem has_iff_exists_mem_list : r.has id = true ↔ ∃ info ∈ r.list, info.id = id := by
  rw [has_iff_exists_mem]
  simp only [mem_list_iff, Prod.exists]
  constructor
  · rintro ⟨info, value, hmem, hid⟩
    exact ⟨info, ⟨value, hmem⟩, hid⟩
  · rintro ⟨info, ⟨value, hmem⟩, hid⟩
    exact ⟨info, value, hmem, hid⟩

theorem pairwise_list (h : r.IsDistinct) : r.list.Pairwise fun a b => a.id < b.id := by
  have hsorted : r.list.Pairwise fun a b => a.id ≤ b.id :=
    List.pairwise_mergeSort' (Order.Preimage Info.id (· ≤ ·)) _
  have hperm : r.list.Perm (r.generators.map Prod.fst) := List.mergeSort_perm _ _
  have hdistinct : (r.list.map Info.id).Nodup := by
    rw [(hperm.map Info.id).nodup_iff, List.map_map]
    exact h
  have hne : r.list.Pairwise fun a b => a.id ≠ b.id := List.pairwise_map.mp hdistinct
  apply (hsorted.and hne).imp
  rintro a b ⟨hle, hne⟩
  exact lt_of_le_of_ne hle hne

theorem get_eq_ok_iff : r.get id = .ok g ↔ r.find? id = some g := by
  rw [get]
  split
  · next found h => rw [h, Except.ok.injEq, Option.some_inj]
  · next h => simp [h]

theorem has_iff_exists_get : r.has id = true ↔ ∃ g, r.get id = .ok g := by
  simp only [has_iff_find?, get_eq_ok_iff]

theorem IsDistinct.isConsistent (h : r.IsDistinct) : r.IsConsistent :=
  ⟨pairwise_list h, fun _ => has_iff_exists_get, fun _ => has_iff_exists_mem_list⟩

theorem get_of_not_has (h : r.has id = false) :
    r.get id = .error (.unknown id (r.list.map Info.id)) := by
  rw [has, Option.isSome_eq_false_iff, Option.isNone_iff_eq_none] at h
  rw [get, h]

theorem get_offerAll_append {more : List (Candidate α)} (h : (start.offerAll cs).get id = .ok g) :
    (start.offerAll (cs ++ more)).get id = .ok g := by
  rw [get_eq_ok_iff, find?_offerAll] at h
  rw [get_eq_ok_iff, find?_offerAll, List.filterMap_append, ← List.append_assoc,
    List.find?_append, h, Option.some_or]

theorem intercalate_eq_empty_iff {ids : List String} :
    ", ".intercalate ids = "" ↔ ids = [] ∨ ids = [""] := by
  cases ids with
  | nil => simp only [String.intercalate_nil, true_or]
  | cons a ids =>
    cases ids with
    | nil => simp only [String.intercalate_singleton, List.cons_ne_nil, false_or, List.cons.injEq,
        and_true]
    | cons b ids =>
      have hcomma : ", " ≠ "" := by decide
      simp only [String.intercalate_cons_cons, String.append_eq_empty_iff, hcomma, and_false,
        false_and, List.cons_ne_nil, List.cons.injEq, or_self]

theorem message_unknown (id : String) (ids : List String) : (Fault.unknown id ids).message
    = Datum.quoted ("未登録の言語です: " ++ id ++ "（利用可能: " ++ told ids ++ "）") := by
  unfold Fault.message unknownFrame told
  simp only [intercalate_eq_empty_iff, toString, String.append_assoc]

end

/-- At every point of a run, a call fails for what is no generator and for a taken identifier, and
then nothing has changed. All that is seen is consistent, and what is listed has been registered by
a call or was there from the start. An identifier gives the first generator that was offered under
it, then and ever after, and one without a generator gives a fault that tells those that have one,
by their order; but a single empty identifier is told as none. -/
theorem offerAll_observed {start r : Registry α} {cs : List (Candidate α)} (hstart : start.IsStart)
    (hr : start.offerAll cs = r) :
    (∀ c fault, (r.register c = .error fault ↔
        (∃ kind, c = .other kind ∧ fault = .notAGenerator kind)
          ∨ ∃ info value, c = .generator info value ∧ r.has info.id = true
            ∧ fault = .taken info.id)
        ∧ (r.register c = .error fault → start.offerAll (cs ++ [c]) = r))
      ∧ r.IsConsistent
      ∧ (∀ info, info ∈ r.list ↔ info ∈ start.list ∨ ∃ value before after,
        cs = before ++ .generator info value :: after ∧ start.Registers before (info, value))
      ∧ (∀ id g, r.get id = .ok g →
        (start.generators ++ cs.filterMap Candidate.generator?).find? (fun g => g.1.id == id)
          = some g
        ∧ ∀ more, (start.offerAll (cs ++ more)).get id = .ok g)
      ∧ ∀ id, r.has id = false → ∃ ids, ids = r.list.map Info.id
        ∧ r.get id = .error (.unknown id ids)
        ∧ (Fault.unknown id ids).message
          = Datum.quoted ("未登録の言語です: " ++ id ++ "（利用可能: " ++ told ids ++ "）") := by
  subst hr
  refine ⟨?_, ?_, ?_, ?_, ?_⟩
  · intro c fault
    refine ⟨register_eq_error_iff, fun h => ?_⟩
    rw [offerAll_append]
    exact offer_of_error h
  · exact (isDistinct_offerAll hstart.isDistinct cs).isConsistent
  · intro info
    simp only [mem_list_iff, mem_offerAll_iff, exists_or]
  · intro id g h
    refine ⟨?_, fun more => get_offerAll_append h⟩
    rwa [get_eq_ok_iff, find?_offerAll] at h
  · intro id h
    exact ⟨_, rfl, get_of_not_has h, message_unknown id _⟩

theorem offerAll_observed_standard :
    let start : Registry Nat := (standard .locator Locator.ofSelector).map fun _ => 0
    let calls : List (Candidate Nat) := [.other "object",
      .generator ⟨"python", "Python", "Other", "python"⟩ 1, .generator ⟨"java", "J", "", ""⟩ 2]
    start.IsStart ∧ (start.offerAll calls).get "python" = .ok (infoOf .python, 0)
      ∧ (∀ more, (start.offerAll (calls ++ more)).get "python" = .ok (infoOf .python, 0))
      ∧ (start.offerAll calls).has "Java" = false
      ∧ ∃ ids, (start.offerAll calls).get "Java" = .error (.unknown "Java" ids) := by
  intro start calls
  have hstart : start.IsStart := .inr ⟨_, _, _, rfl⟩
  have hget : (start.offerAll calls).get "python" = .ok (infoOf .python, 0) := rfl
  have hhas : (start.offerAll calls).has "Java" = false := rfl
  obtain ⟨-, -, -, hfound, hunknown⟩ := offerAll_observed hstart (rfl : start.offerAll calls = _)
  obtain ⟨ids, -, hfault, -⟩ := hunknown "Java" hhas
  exact ⟨hstart, hget, (hfound _ _ hget).2, hhas, ids, hfault⟩

/-- The one registered identifier, which is empty, is not told. -/
theorem get_offerAll_emptyId :
    let r : Registry Unit := offerAll {} [.generator ⟨"", "Python", "Library", "python"⟩ ()]
    r.list.map Info.id = [""] ∧ ∃ fault, r.get "java" = .error fault
      ∧ fault.message = Datum.quoted "未登録の言語です: java（利用可能: (なし)）"
      ∧ fault.message ≠ Datum.quoted
        ("未登録の言語です: java（利用可能: " ++ ", ".intercalate (r.list.map Info.id) ++ "）") := by
  intro r
  have hids : r.list.map Info.id = [""] := by decide +kernel
  have hmessage := message_unknown "java" [""]
  have hfault : r.get "java" = .error (.unknown "java" [""]) := by
    rw [← hids]
    exact get_of_not_has rfl
  refine ⟨hids, _, hfault, hmessage, ?_⟩
  rw [hmessage, hids]
  decide +kernel

end Registry

/-! ## The standard generators -/

theorem get_standard (style : Script.Style) (a b : Script.Adapter) (id : String) :
    (standard style a).get id
      = ((standard style b).get id).map fun found =>
        (found.1, ⟨found.2.language, found.2.style, a⟩) := by
  have hfind (adapter : Script.Adapter) : (standard style adapter).find? id
      = (Script.Language.all.find? fun l => (infoOf l).id == id).map fun l =>
        (infoOf l, ⟨l, style, adapter⟩) := List.find?_map ..
  rw [Registry.get, Registry.get, hfind a, hfind b]
  cases Script.Language.all.find? fun l => (infoOf l).id == id <;> rfl

/-- Which generator a name stands for does not depend on the adapter. -/
theorem getNamed_standard (style : Script.Style) (a b : Script.Adapter) (name : Datum) :
    (standard style a).getNamed name
      = ((standard style b).getNamed name).map fun found =>
        (found.1, ⟨found.2.language, found.2.style, a⟩) := by
  cases name with
  | brokenText points => rfl
  | _ =>
    simp only [Registry.getNamed]
    exact get_standard style a b _

end Retrace.Language
