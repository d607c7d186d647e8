import Retrace.Proofs.Locator.Chain
import Retrace.Proofs.Text.Strip

/-!
# Parts around a value

A value in a selector may stand between other characters, as long as these are
no quotation marks and nothing of a separator. If the value leaves no quote open
and holds no separator outside quotes, the whole is one part of a chain.
-/

namespace Retrace.Locator

/-! ## Separators -/

theorem IsWhole.nil (open? : Option Char) : IsWhole open? [] := by
  intro before after h
  simp [separator] at h

/-- In front of a text without a separator outside quotes, a character that begins none. -/
theorem IsWhole.cons {open? open' : Option Char} {c : Char} {s : List Char} (h : IsWhole open' s)
    (hstep : ∀ before, quoteAfter open? (c :: before) = quoteAfter open' before)
    (hstart : open? = none → c ≠ ' ') : IsWhole open? (c :: s) := by
  intro before after heq
  cases before with
  | nil =>
    intro hnone
    exact hstart hnone (List.cons_eq_cons.mp heq).1
  | cons d before =>
    obtain ⟨rfl, hs⟩ := List.cons_eq_cons.mp heq
    rw [hstep]
    exact h before after hs

/-- What stands in front of a value or behind it: no quotation mark and nothing of a separator. -/
def IsFrame (s : List Char) : Prop := ∀ c ∈ s, isQuoteMark c = false ∧ c ≠ ' ' ∧ c ≠ '>'

theorem isFrame_iff {s : List Char} :
    IsFrame s ↔ (s.all fun c => !isQuoteMark c && c != ' ' && c != '>') = true := by
  simp [IsFrame, and_assoc]

theorem IsFrame.append {s t : List Char} (hs : IsFrame s) (ht : IsFrame t) : IsFrame (s ++ t) := by
  intro c hc
  obtain hc | hc := List.mem_append.mp hc
  · exact hs c hc
  · exact ht c hc

theorem IsWhole.frame_append {front s : List Char} (hfront : IsFrame front) (h : IsWhole none s) :
    IsWhole none (front ++ s) := by
  induction front with
  | nil => exact h
  | cons c front ih =>
    obtain ⟨⟨hmark, hspace, -⟩, hrest⟩ := List.forall_mem_cons.mp hfront
    apply (ih hrest).cons
    · intro before
      simp [quoteAfter, hmark]
    · intro _
      exact hspace

theorem IsWhole.append_frame {s back : List Char} (h : IsWhole none s) (hback : IsFrame back) :
    IsWhole none (s ++ back) := by
  intro before after heq
  obtain ⟨behind, hsep, hbehind⟩ | ⟨inside, hs, -⟩ := List.append_eq_append_iff.mp heq
  · obtain rfl | hne := eq_or_ne behind []
    · apply h before []
      simpa using hsep.symm
    · -- a separator that ends behind the value ends in a space there
      have hlast : behind.getLast? = some ' ' := by
        have hend := congrArg List.getLast? hsep
        rw [List.getLast?_append_of_ne_nil _ hne] at hend
        rw [← hend]
        simp [separator]
      have hmem : ' ' ∈ back := by
        rw [hbehind]
        exact List.mem_append_left _ (List.mem_of_getLast? hlast)
      exact absurd rfl (hback ' ' hmem).2.1
  · exact h before inside hs

theorem isWhole_of_unseparated {s : List Char} (h : ¬ separator <:+: s) (open? : Option Char) :
    IsWhole open? s := by
  intro before after heq
  exact absurd ⟨before, after, heq.symm⟩ h

/-- A separator stands on one side of a character that it does not hold. -/
theorem separator_infix_of_append_cons {s t : List Char} {c : Char} (hc : c ∉ separator)
    (h : separator <:+: s ++ c :: t) : separator <:+: s ∨ separator <:+: t := by
  obtain ⟨before, after, heq⟩ := h
  rw [List.append_assoc] at heq
  obtain ⟨behind, hs, hbehind⟩ | ⟨between, rfl, hbetween⟩ := List.append_eq_append_iff.mp heq
  · obtain ⟨rest, rfl, -⟩ | ⟨across, hsep, hacross⟩ := List.append_eq_append_iff.mp hbehind
    · exact .inl ⟨before, rest, by rw [hs, List.append_assoc]⟩
    · cases across with
      | nil =>
        rw [List.append_nil] at hsep
        exact .inl ⟨before, [], by rw [hs, hsep, List.append_nil]⟩
      | cons d across =>
        obtain ⟨rfl, -⟩ := List.cons_eq_cons.mp hacross
        rw [hsep] at hc
        exact absurd (by simp) hc
  · cases between with
    | nil =>
      obtain ⟨rfl, -⟩ := List.cons_eq_cons.mp hbetween
      exact absurd (by decide) hc
    | cons d between =>
      obtain ⟨-, ht⟩ := List.cons_eq_cons.mp hbetween
      exact .inr ⟨between, after, (List.append_assoc _ _ _).trans ht.symm⟩

/-! ## Quotes -/

theorem quoteAfter_unquoted {s : List Char} (h : ∀ c ∈ s, isQuoteMark c = false)
    (rest : List Char) : quoteAfter none (s ++ rest) = quoteAfter none rest := by
  induction s with
  | nil => rfl
  | cons c s ih =>
    obtain ⟨hmark, hs⟩ := List.forall_mem_cons.mp h
    rw [List.cons_append, quoteAfter, hmark, if_neg Bool.false_ne_true]
    exact ih hs

theorem quoteAfter_frame {s : List Char} (h : IsFrame s) (rest : List Char) :
    quoteAfter none (s ++ rest) = quoteAfter none rest := by
  apply quoteAfter_unquoted
  intro c hc
  exact (h c hc).1

theorem quoteAfter_append {open? : Option Char} {s : List Char} (h : quoteAfter open? s = none)
    (rest : List Char) : quoteAfter open? (s ++ rest) = quoteAfter none rest := by
  fun_induction quoteAfter open? s with
  | case1 open? =>
    subst h
    rfl
  | case2 mark => cases h
  | case3 mark d s ih =>
    rw [List.cons_append, List.cons_append, quoteAfter]
    exact ih h
  | case4 mark c s hsingle hpair ih =>
    have hc : c ≠ '\\' := by
      rintro rfl
      cases s with
      | nil => exact hsingle rfl rfl
      | cons d s => exact hpair d s rfl rfl
    rw [List.cons_append, quoteAfter_inside hc]
    exact ih h
  | case5 c s ih =>
    rw [List.cons_append, quoteAfter]
    exact ih h

/-- A quote that is open is closed by its own mark only. -/
theorem quoteAfter_append_of_ne_none {open? : Option Char} {s t : List Char}
    (hopen : ∀ mark ∈ open?, isQuoteMark mark = true) (h : quoteAfter open? s ≠ none)
    (ht : ∀ c ∈ t, isQuoteMark c = false ∧ c ≠ '\\') : quoteAfter open? (s ++ t) ≠ none := by
  have hinside {mark : Char} (hmark : isQuoteMark mark = true) {t : List Char}
      (ht : ∀ c ∈ t, isQuoteMark c = false ∧ c ≠ '\\') : quoteAfter (some mark) t = some mark := by
    induction t with
    | nil => rfl
    | cons c t ih =>
      obtain ⟨⟨hc, hescape⟩, hrest⟩ := List.forall_mem_cons.mp ht
      have hne : c ≠ mark := by
        rintro rfl
        rw [hmark] at hc
        cases hc
      rw [quoteAfter_inside hescape, if_neg hne]
      exact ih hrest
  fun_induction quoteAfter open? s with
  | case1 open? =>
    obtain ⟨mark, rfl⟩ := Option.ne_none_iff_exists'.mp h
    rw [List.nil_append, hinside (hopen mark rfl) ht]
    exact h
  | case2 mark =>
    cases t with
    | nil => exact h
    | cons d t =>
      rw [List.cons_append, List.nil_append, quoteAfter,
        hinside (hopen mark rfl) (List.forall_mem_cons.mp ht).2]
      exact h
  | case3 mark d s ih =>
    rw [List.cons_append, List.cons_append, quoteAfter]
    exact ih hopen h
  | case4 mark c s hsingle hpair ih =>
    have hc : c ≠ '\\' := by
      rintro rfl
      cases s with
      | nil => exact hsingle rfl rfl
      | cons d s => exact hpair d s rfl rfl
    rw [List.cons_append, quoteAfter_inside hc]
    apply ih _ h
    intro other hother
    split at hother
    · cases hother
    · exact hopen other hother
  | case5 c s ih =>
    rw [List.cons_append, quoteAfter]
    apply ih _ h
    intro mark hmark
    split at hmark
    · next hc =>
      cases hmark
      exact hc
    · cases hmark

/-- Behind a quote that is left open there is no separator outside quotes until its mark comes. -/
theorem IsWhole.append_of_open {s t : List Char} (hs : IsWhole none s)
    (hopen : quoteAfter none s ≠ none) (hlast : ∀ c ∈ s.getLast?, c ∉ separator)
    (ht : ∀ c ∈ t, isQuoteMark c = false ∧ c ≠ '\\') : IsWhole none (s ++ t) := by
  intro before after heq
  rw [List.append_assoc] at heq
  obtain ⟨behind, rfl, hbehind⟩ | ⟨across, rfl, hacross⟩ := List.append_eq_append_iff.mp heq
  · apply quoteAfter_append_of_ne_none (by simp) hopen
    intro c hc
    apply ht
    rw [hbehind]
    exact List.mem_append_left _ hc
  · obtain ⟨inside, rfl, -⟩ | ⟨rest, hsep, -⟩ := List.append_eq_append_iff.mp hacross
    · exact hs before inside (List.append_assoc _ _ _).symm
    · obtain rfl | hne := eq_or_ne across []
      · rwa [List.append_nil] at hopen
      · -- the last character before the seam would be one of the separator
        have hmem : across.getLast hne ∈ separator := by
          rw [hsep]
          exact List.mem_append_left _ (List.getLast_mem hne)
        apply absurd hmem
        apply hlast
        rw [List.getLast?_append_of_ne_nil _ hne]
        exact List.getLast?_eq_getLast_of_ne_nil hne

/-- A character that is no part of a separator keeps two texts apart. -/
theorem IsWhole.append_cons {s t : List Char} {c : Char} (hs : IsWhole none s)
    (hclosed : quoteAfter none s = none) (hc : IsFrame [c]) (ht : IsWhole none t) :
    IsWhole none (s ++ c :: t) := by
  obtain ⟨hmark, hspace, hgreater⟩ := hc c (by simp)
  intro before after heq
  obtain ⟨behind, hsep, hbehind⟩ | ⟨inside, hinside, -⟩ := List.append_eq_append_iff.mp heq
  case inr => exact hs before inside hinside
  cases behind with
  | nil =>
    apply hs before []
    simpa using hsep.symm
  | cons d behind =>
    obtain ⟨rfl, rfl⟩ := List.cons_eq_cons.mp hbehind
    obtain ⟨across, -, hacross⟩ | ⟨front, rfl, hfront⟩ := List.append_eq_append_iff.mp hsep
    · have hmem : c ∈ separator := by
        rw [hacross]
        simp
      simp [separator, hspace, hgreater] at hmem
    · cases front with
      | nil => exact absurd (List.cons_eq_cons.mp hfront).1 hspace
      | cons e front =>
        obtain ⟨rfl, rfl⟩ := List.cons_eq_cons.mp hfront
        rw [quoteAfter_append hclosed, quoteAfter, hmark, if_neg Bool.false_ne_true]
        exact ht front after (by simp)

/-! ## Parts -/

theorem isPart_framed {front v back : List Char} {c d : Char} (hfront : IsFrame front)
    (hfirst : front.head? = some c) (hc : Text.isBlank c = false) (hwhole : IsWhole none v)
    (hclosed : quoteAfter none v = none) (hback : IsFrame back)
    (hlast : (v ++ back).getLast? = some d) (hd : Text.isBlank d = false) (hseam : d ≠ '>') :
    IsPart (front ++ v ++ back) := by
  have hhead : (front ++ v ++ back).head? = some c := by
    rw [List.append_assoc, List.head?_append, hfirst]
    rfl
  have hend : (front ++ v ++ back).getLast? = some d := by
    rw [List.append_assoc, List.getLast?_append, hlast]
    rfl
  constructor
  case ne_nil =>
    intro hnil
    rw [hnil] at hhead
    cases hhead
  case trimmed => exact Text.strip_eq_self hhead hc hend hd
  case closed =>
    rw [List.append_assoc, quoteAfter_frame hfront, quoteAfter_append hclosed,
      ← List.append_nil back, quoteAfter_frame hback]
    rfl
  case whole =>
    rw [List.append_assoc]
    exact (hwhole.append_frame hback).frame_append hfront
  case noSeam =>
    rintro ⟨before, hbefore⟩
    rw [← hbefore, List.getLast?_append_of_ne_nil _ (by decide)] at hend
    cases hend
    exact hseam rfl

end Retrace.Locator
