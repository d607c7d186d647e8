import Retrace.Proofs.Result
import Retrace.Script.Assemble

/-!
# How a script is put together

Behind its header a script depends on the entries one by one. If all of them are
written, their texts follow each other, those that are empty left out; otherwise
the first entry that is not written decides on the fault, and the entries behind
it are not looked at. This holds of whatever writes the entries: a generator with
any adapter, for entries that have been checked or have not.
-/

namespace Retrace.Script

open Text

section

variable {α : Type} {write : α → Except Fault (List Char)}

theorem isTraversal_fragmentsFrom (write : α → Except Fault (List Char)) :
    Result.IsTraversal (fun place e => (write e).mapError (.placed place))
      (fun e s => write e = .ok s) (fragmentsFrom write) where
  nil _ := rfl
  cons _ _ _ := rfl
  step_eq_ok _ _ _ := Result.mapError_eq_ok

/-- The texts of a recording, in their order; an entry that is empty has none. -/
def bodyTexts (write : α → Except Fault (List Char)) (recording : List α) : List (List Char) :=
  recording.filterMap fun e =>
    match write e with
    | .ok [] => none
    | .ok s => some s
    | .error _ => none

theorem bodyTexts_append (xs ys : List α) :
    bodyTexts write (xs ++ ys) = bodyTexts write xs ++ bodyTexts write ys :=
  List.filterMap_append

theorem bodyTexts_cons_of_empty {e : α} (h : write e = .ok []) (recording : List α) :
    bodyTexts write (e :: recording) = bodyTexts write recording :=
  List.filterMap_cons_none (by rw [h])

theorem bodyTexts_cons_of_text {e : α} {s : List Char} (h : write e = .ok s) (hs : s ≠ [])
    (recording : List α) : bodyTexts write (e :: recording) = s :: bodyTexts write recording := by
  obtain ⟨c, rest, rfl⟩ := List.exists_cons_of_ne_nil hs
  exact List.filterMap_cons_some (by rw [h])

theorem filter_eq_bodyTexts {recording : List α} {fragments : List (List Char)}
    (h : List.Forall₂ (fun e s => write e = .ok s) recording fragments) :
    fragments.filter (· != []) = bodyTexts write recording := by
  induction h with
  | nil => rfl
  | @cons e s recording fragments hs _ ih =>
    by_cases hempty : s = []
    · subst hempty
      rw [bodyTexts_cons_of_empty hs, ← ih]
      rfl
    · rw [bodyTexts_cons_of_text hs hempty, ← ih]
      exact List.filter_cons_of_pos (by simpa using hempty)

/-! ## Faults with a place -/

/-- What a fault becomes at a place: an action without a rule and a value without a literal
are reported with their place, all other faults as they are. -/
inductive PlacedAt (place : Nat) : Fault → Fault → Prop
  | action (kind : Datum) (index : Option Nat) :
    PlacedAt place (.unsupportedAction kind index) (.unsupportedAction kind (some place))
  | value (value : Datum) (index : Option Nat) :
    PlacedAt place (.unsupportedValue value index) (.unsupportedValue value (some place))
  | other {fault : Fault} (haction : ∀ kind index, fault ≠ .unsupportedAction kind index)
    (hvalue : ∀ value index, fault ≠ .unsupportedValue value index) : PlacedAt place fault fault

theorem placed_eq_iff {place : Nat} {fault given : Fault} :
    fault.placed place = given ↔ PlacedAt place fault given := by
  constructor
  · rintro rfl
    cases fault with
    | unsupportedAction kind index => exact .action kind index
    | unsupportedValue value index => exact .value value index
    | _ => exact .other (by simp) (by simp)
  · intro h
    cases h with
    | action kind index => rfl
    | value value index => rfl
    | other haction hvalue =>
      cases fault with
      | unsupportedAction kind index => exact absurd rfl (haction kind index)
      | unsupportedValue value index => exact absurd rfl (hvalue value index)
      | _ => rfl

theorem mapError_placed_eq_error {x : Except Fault (List Char)} {place : Nat} {given : Fault} :
    x.mapError (.placed place) = .error given
      ↔ ∃ fault, x = .error fault ∧ PlacedAt place fault given := by
  cases x with
  | error fault =>
    change Except.error (fault.placed place) = _ ↔ _
    simp [placed_eq_iff]
  | ok s =>
    change Except.ok s = _ ↔ _
    simp

/-! ## Scripts -/

variable {language : Language} {options : Options} {saveStorage : Option String}
  {head : List Char}

theorem assemble_of_header [Text.View] (hhead : header language options = .ok head)
    (recording : List α) : assemble language write recording options saveStorage
      = (join head · (footer language saveStorage)) <$> fragmentsFrom write 0 recording := by
  rw [assemble, hhead]
  rfl

theorem assemble_eq_ok_iff [Text.View] (hhead : header language options = .ok head)
    {recording : List α} {s : List Char} :
    assemble language write recording options saveStorage = .ok s
      ↔ (∀ e ∈ recording, ∃ text, write e = .ok text)
        ∧ s = joinLines (head :: bodyTexts write recording ++ [footer language saveStorage]) := by
  have hrun := isTraversal_fragmentsFrom write
  rw [assemble_of_header hhead, Result.map_eq_ok, ← hrun.exists_eq_ok_iff 0]
  constructor
  · rintro ⟨fragments, hfragments, rfl⟩
    refine ⟨⟨fragments, hfragments⟩, ?_⟩
    rw [join, filter_eq_bodyTexts (hrun.eq_ok_iff.mp hfragments)]
  · rintro ⟨⟨fragments, hfragments⟩, rfl⟩
    refine ⟨fragments, hfragments, ?_⟩
    rw [join, filter_eq_bodyTexts (hrun.eq_ok_iff.mp hfragments)]

theorem assemble_eq_error_iff [Text.View] (hhead : header language options = .ok head)
    {recording : List α} {given : Fault} :
    assemble language write recording options saveStorage = .error given
      ↔ ∃ before e after fault, recording = before ++ e :: after
        ∧ (∀ b ∈ before, ∃ text, write b = .ok text) ∧ write e = .error fault
        ∧ PlacedAt before.length fault given := by
  rw [assemble_of_header hhead, Result.map_eq_error,
    (isTraversal_fragmentsFrom write).eq_error_iff]
  simp only [Nat.zero_add, mapError_placed_eq_error]
  constructor
  · rintro ⟨before, e, after, hrecording, hbefore, fault, hfault, hgiven⟩
    exact ⟨before, e, after, fault, hrecording, hbefore, hfault, hgiven⟩
  · rintro ⟨before, e, after, fault, hrecording, hbefore, hfault, hgiven⟩
    exact ⟨before, e, after, hrecording, hbefore, fault, hfault, hgiven⟩

/-- The outcome of a script whose header is written. It has the texts of its entries, one after
the other, if all are written, and else the fault of the first that is not, with its place among
all entries. So entries without text can be put in or left out anywhere, two recordings one after
the other have the texts of the one and then of the other, and what stands behind an entry that
fails makes no difference. -/
theorem assemble_outcome [Text.View] (write : α → Except Fault (List Char))
    (saveStorage : Option String) (hhead : header language options = .ok head) :
    (∀ recording s, assemble language write recording options saveStorage = .ok s
        ↔ (∀ e ∈ recording, ∃ text, write e = .ok text)
          ∧ s = joinLines (head :: bodyTexts write recording ++ [footer language saveStorage]))
      ∧ (∀ recording given, assemble language write recording options saveStorage = .error given
        ↔ ∃ before e after fault, recording = before ++ e :: after
          ∧ (∀ b ∈ before, ∃ text, write b = .ok text) ∧ write e = .error fault
          ∧ PlacedAt before.length fault given)
      ∧ (∀ before e after s, write e = .ok [] →
        (assemble language write (before ++ e :: after) options saveStorage = .ok s
          ↔ assemble language write (before ++ after) options saveStorage = .ok s))
      ∧ (∀ xs ys, bodyTexts write (xs ++ ys) = bodyTexts write xs ++ bodyTexts write ys)
      ∧ ∀ before e after others fault, write e = .error fault →
        assemble language write (before ++ e :: after) options saveStorage
          = assemble language write (before ++ e :: others) options saveStorage := by
  refine ⟨fun _ _ => assemble_eq_ok_iff hhead, fun _ _ => assemble_eq_error_iff hhead, ?_,
    bodyTexts_append, ?_⟩
  · intro before e after s he
    rw [assemble_eq_ok_iff hhead, assemble_eq_ok_iff hhead, bodyTexts_append, bodyTexts_append,
      bodyTexts_cons_of_empty he]
    simp only [List.forall_mem_append, List.forall_mem_cons]
    have hwritten : ∃ text, write e = .ok text := ⟨[], he⟩
    simp only [hwritten, true_and]
  · intro before e after others fault he
    have hfails : ¬ ∃ text, write e = .ok text := by
      rintro ⟨text, htext⟩
      rw [he] at htext
      cases htext
    rw [assemble_of_header hhead, assemble_of_header hhead,
      (isTraversal_fragmentsFrom write).append_cons_of_fails hfails before after others]

end

/-! ## A blank page, an address and an action of no known kind -/

section

open Recording

def mainFrame : Frame := ⟨"page", true, [], none, none⟩

def blankPage : Item := .checked ⟨mainFrame, ⟨.openPage "about:blank", []⟩⟩

def visit : Item := .checked ⟨mainFrame, ⟨.navigate "a", []⟩⟩

def hovering : Item := .unchecked mainFrame ⟨some (.text "hover"), []⟩

/-- The blank page has no text, but counts for the place of what fails behind it. -/
theorem assemble_outcome_hovering :
    ∃ head, header .python {} = .ok head
      ∧ (Generator.mk .python .selector .ok).scriptOf [blankPage, visit] {} none
        = .ok (joinLines [head, "    page.goto(\x22a\x22)".toList, footer .python none])
      ∧ (Generator.mk .python .selector .ok).scriptOf [blankPage, visit, hovering, visit] {} none
        = .error (.unsupportedAction (.text "hover") (some 2)) := by
  have hok : (header .python {}).toOption.isSome = true := by decide +kernel
  cases hhead : header .python {} with
  | error fault =>
    rw [hhead] at hok
    cases hok
  | ok head =>
    have hblank : (Generator.mk .python .selector .ok).fragmentOf blankPage = .ok [] := rfl
    have hvisit : (Generator.mk .python .selector .ok).fragmentOf visit
        = .ok "    page.goto(\x22a\x22)".toList := rfl
    have hhovering : (Generator.mk .python .selector .ok).fragmentOf hovering
        = .error (.unsupportedAction (.text "hover") none) := rfl
    have hwritten : ∀ e ∈ [blankPage, visit],
        ∃ text, (Generator.mk .python .selector .ok).fragmentOf e = .ok text := by
      simp [hblank, hvisit]
    obtain ⟨hsucceeds, hfails, -⟩ :=
      assemble_outcome (Generator.mk .python .selector .ok).fragmentOf none hhead
    refine ⟨head, rfl, (hsucceeds _ _).mpr ⟨hwritten, ?_⟩, (hfails _ _).mpr ?_⟩
    · rw [bodyTexts_cons_of_empty hblank, bodyTexts_cons_of_text hvisit (by decide)]
      rfl
    · exact ⟨[blankPage, visit], hovering, [visit], _, rfl, hwritten, hhovering,
        .action (.text "hover") none⟩

end

end Retrace.Script
