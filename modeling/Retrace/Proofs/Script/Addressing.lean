import Retrace.Proofs.Script.Failure
import Retrace.Proofs.Script.Reported

/-!
# What a fragment takes from its frame

There are four ways to address a frame, and the first of them that can be used
is the only one that counts. A fragment depends on its frame through the page and
through what is addressed in this way; whatever the frame holds beside it makes
no difference. A page that is opened is not even addressed. Without any of the
four there is no fragment, and this is the only promise that an entry can break.
-/

namespace Retrace.Script

open Literal
open Recording hiding ofDatum

/-! ## One action in two frames -/

/-- Two texts or faults are the same, or both are faults of frames without an address. These
tell their frames, so they need not be the same. -/
inductive EndsAlike : Except Fault (List Char) → Except Fault (List Char) → Prop
  | same (x : Except Fault (List Char)) : EndsAlike x x
  | unaddressable (f f' : Frame) :
    EndsAlike (.error (.unaddressable f)) (.error (.unaddressable f'))

section

variable {style : Style} {adapter : Adapter} {a : Action} {f f' : Frame}

/-- A page that is opened has its name from the frame, and nothing else. -/
theorem fragment_openPage_congr {url : String} (h : a.operation = .openPage url)
    (hpage : f.pageAlias = f'.pageAlias) :
    fragment style adapter ⟨f, a⟩ = fragment style adapter ⟨f', a⟩ := by
  have hnodes (f : Frame) : nodes style adapter ⟨f, a⟩
      = .ok (openPageNodes f.pageAlias.toList url) := nodes_openPage h style adapter
  rw [fragment, fragment, hnodes, hnodes, hpage]

/-- A call has its page and its subject from the frame. -/
theorem fragment_call_congr (h : ∀ url, a.operation ≠ .openPage url)
    (hpage : f.pageAlias = f'.pageAlias)
    (hsubject : subject f (isNavigation a.operation) = subject f' (isNavigation a.operation)) :
    fragment style adapter ⟨f, a⟩ = fragment style adapter ⟨f', a⟩ := by
  have hnodes (f : Frame) : nodes style adapter ⟨f, a⟩ = do
      let subject ← subject f (isNavigation a.operation)
      let call ← writeOperation style adapter a.operation
      return withEffects f.pageAlias.toList (.ofSignals a.signals) (subject ++ '.' :: call) :=
    nodes_of_call h style adapter
  rw [fragment, fragment, hnodes, hnodes, hpage, hsubject]

theorem fragment_congr {target : Target} (hpage : f.pageAlias = f'.pageAlias)
    (h : target? f (isNavigation a.operation) = some target)
    (h' : target? f' (isNavigation a.operation) = some target) :
    fragment style adapter ⟨f, a⟩ = fragment style adapter ⟨f', a⟩ := by
  by_cases hopen : ∃ url, a.operation = .openPage url
  · obtain ⟨url, hurl⟩ := hopen
    exact fragment_openPage_congr hurl hpage
  · apply fragment_call_congr (not_exists.mp hopen) hpage
    rw [subject_eq, subject_eq, h, h', hpage]

/-- Frames that are addressed alike lead to the same end, also if they are not addressed at all. -/
theorem endsAlike_fragment (hpage : f.pageAlias = f'.pageAlias)
    (h : target? f (isNavigation a.operation) = target? f' (isNavigation a.operation)) :
    EndsAlike (fragment style adapter ⟨f, a⟩) (fragment style adapter ⟨f', a⟩) := by
  by_cases hopen : ∃ url, a.operation = .openPage url
  · obtain ⟨url, hurl⟩ := hopen
    rw [fragment_openPage_congr hurl hpage]
    exact .same _
  · cases htarget : target? f' (isNavigation a.operation) with
    | some target =>
      rw [fragment_congr hpage (h.trans htarget) htarget]
      exact .same _
    | none =>
      have hnone (f : Frame) (hf : target? f (isNavigation a.operation) = none) :
          fragment style adapter ⟨f, a⟩ = .error (.unaddressable f) :=
        fragment_of_hasNoTarget ⟨not_exists.mp hopen, (target?_eq_none_iff _ _).mp hf⟩
      rw [hnone f (h.trans htarget), hnone f' htarget]
      exact .unaddressable f f'

end

/-! ## Which way counts -/

section

variable {f : Frame} {navigation : Bool}

theorem target?_of_main (h : f.isMainFrame = true) : target? f navigation = some .page := by
  rw [target?, if_pos h]

theorem target?_of_chain (hinner : f.isMainFrame = false) (h : f.selectorsChain ≠ [])
    (hnavigation : navigation = false) :
    target? f navigation = some (.chain f.selectorsChain) := by
  simp [target?, hinner, h, hnavigation]

theorem target?_of_name (hinner : f.isMainFrame = false)
    (hchain : f.selectorsChain = [] ∨ navigation = true) {name : String}
    (hname : f.name = some name) (hne : name ≠ "") :
    target? f navigation = some (.name name) := by
  have hunused : ¬ (decide (f.selectorsChain ≠ []) && !navigation) = true := by
    obtain hchain | hnavigation := hchain
    · simp [hchain]
    · simp [hnavigation]
  have husable : usable? f.name = some name := by simp [hname, usable?, hne]
  rw [target?, if_neg (by simp [hinner]), if_neg hunused, husable]

/-- A navigation does not look at the selectors of the frames around its own. -/
theorem target?_navigation (chain : List String) :
    target? { f with selectorsChain := chain } true = target? f true := by
  simp [target?]

/-- The subject in a frame that selectors lead to: the page, and for each selector a step with
a literal that is read as it. -/
theorem exists_subject_of_chain (hinner : f.isMainFrame = false) (h : f.selectorsChain ≠ [])
    (hnavigation : navigation = false) :
    ∃ literals, subject f navigation
        = .ok (f.pageAlias.toList
          ++ literals.flatMap fun s => ".frame_locator(".toList ++ s ++ [')'])
      ∧ List.Forall₂ (fun s selector => read? s = some (.text selector)) literals
        f.selectorsChain := by
  refine ⟨f.selectorsChain.map fun selector => quote selector.toList, ?_, ?_⟩
  · rw [subject_eq, target?_of_chain hinner h hnavigation, List.flatMap_map]
    rfl
  · rw [List.forall₂_map_left_iff, List.forall₂_same]
    intro selector _
    rw [(Reads.quote selector.toList).read?, String.ofList_toList]

end

/-! ## Broken promises -/

/-- Faults that a recording which keeps its promises does not have. -/
inductive Fault.IsBrokenPromise : Fault → Prop
  | notACall : IsBrokenPromise .notACall
  | unaddressable (f : Frame) : IsBrokenPromise (.unaddressable f)
  | unmatchedBlock : IsBrokenPromise .unmatchedBlock

theorem not_isBrokenPromise_ofLiteral (fault : Literal.Fault) :
    ¬ (Fault.ofLiteral fault).IsBrokenPromise := by
  cases fault <;> rintro ⟨⟩

/-- A promise is broken by frames without an address, and in no other way. -/
theorem exists_isBrokenPromise_iff (style : Style) (adapter : Adapter) (e : Entry) :
    (∃ fault, fragment style adapter e = .error fault ∧ fault.IsBrokenPromise) ↔ HasNoTarget e := by
  constructor
  · rintro ⟨fault, hfault, hbroken⟩
    by_contra htarget
    have hopen : ∀ url, e.action.operation ≠ .openPage url := by
      intro url hurl
      rw [fragment, nodes_openPage hurl] at hfault
      cases hfault
    obtain ⟨s, hs⟩ := exists_subject_of_not_hasNoTarget hopen htarget
    have hcall : Result.FailsOnly (fun fault => ¬ fault.IsBrokenPromise)
        (writeOperation style adapter e.action.operation) :=
      failsOnly_writeOperation not_isBrokenPromise_ofLiteral (fun _ => by rintro ⟨⟩)
        (fun url hurl => absurd hurl (hopen url)) style adapter
    have hkept : Result.FailsOnly (fun fault => ¬ fault.IsBrokenPromise)
        (fragment style adapter e) := by
      rw [fragment, nodes_of_call hopen]
      exact .map (.bind (hs ▸ .ok s) fun s _ => .bind hcall fun call _ => .ok _)
    exact hkept fault hfault hbroken
  · intro h
    exact ⟨_, fragment_of_hasNoTarget h, .unaddressable e.frame⟩

/-- A frame is addressed in the first way that can be used, and the others do not interfere. A
page that is opened takes only its name from the frame. In the main frame the selectors, the name
and the address make no difference. In another frame that selectors lead to, the name and the
address make none, unless the operation is a navigation, and the subject has a step for each of
the selectors. For a navigation the selectors make no difference, and where a name is used, the
address makes none. A promise is broken if and only if none of the ways can be used. -/
theorem fragment_addressing (style : Style) (adapter : Adapter) (f : Frame) (a : Action) :
    ((∃ url, a.operation = .openPage url) → ∀ f' : Frame, f'.pageAlias = f.pageAlias →
        fragment style adapter ⟨f', a⟩ = fragment style adapter ⟨f, a⟩)
      ∧ (f.isMainFrame = true → ∀ chain name url,
        fragment style adapter ⟨{ f with selectorsChain := chain, name := name, url := url }, a⟩
          = fragment style adapter ⟨f, a⟩)
      ∧ (f.isMainFrame = false → f.selectorsChain ≠ [] → isNavigation a.operation = false →
        (∀ name url, fragment style adapter ⟨{ f with name := name, url := url }, a⟩
            = fragment style adapter ⟨f, a⟩)
          ∧ ∃ literals, subject f (isNavigation a.operation)
              = .ok (f.pageAlias.toList
                ++ literals.flatMap fun s => ".frame_locator(".toList ++ s ++ [')'])
            ∧ List.Forall₂ (fun s selector => read? s = some (.text selector)) literals
              f.selectorsChain)
      ∧ (f.isMainFrame = false → isNavigation a.operation = true → ∀ chain,
        EndsAlike (fragment style adapter ⟨{ f with selectorsChain := chain }, a⟩)
          (fragment style adapter ⟨f, a⟩))
      ∧ (f.isMainFrame = false → (f.selectorsChain = [] ∨ isNavigation a.operation = true) →
        (∃ name, f.name = some name ∧ name ≠ "") → ∀ url,
        fragment style adapter ⟨{ f with url := url }, a⟩ = fragment style adapter ⟨f, a⟩)
      ∧ ((∃ fault, fragment style adapter ⟨f, a⟩ = .error fault ∧ fault.IsBrokenPromise)
        ↔ HasNoTarget ⟨f, a⟩) := by
  refine ⟨?_, ?_, ?_, ?_, ?_, exists_isBrokenPromise_iff style adapter ⟨f, a⟩⟩
  · rintro ⟨url, hurl⟩ f' hpage
    exact fragment_openPage_congr hurl hpage
  · intro hmain chain name url
    exact fragment_congr rfl (target?_of_main hmain) (target?_of_main hmain)
  · intro hinner hchain hnavigation
    refine ⟨?_, exists_subject_of_chain hinner hchain hnavigation⟩
    intro name url
    exact fragment_congr rfl (target?_of_chain hinner hchain hnavigation)
      (target?_of_chain hinner hchain hnavigation)
  · intro hinner hnavigation chain
    have hsame : target? { f with selectorsChain := chain } (isNavigation a.operation)
        = target? f (isNavigation a.operation) := by
      rw [hnavigation]
      exact target?_navigation chain
    exact endsAlike_fragment rfl hsame
  · rintro hinner hchain ⟨name, hname, hne⟩ url
    exact fragment_congr rfl (target?_of_name (f := { f with url := url }) hinner hchain hname hne)
      (target?_of_name hinner hchain hname hne)

/-- A frame that two selectors lead to. Its name cannot be used, and it has no address. -/
def nested : Frame := ⟨"page", false, ["#a", "\x22\\"], some "", none⟩

/-- What is checked in the frame is found by the selectors; a navigation does not find it. -/
theorem fragment_addressing_nested :
    (∀ name url, fragment .locator .ok ⟨{ nested with name := name, url := url }, ⟨.check "b", []⟩⟩
        = fragment .locator .ok ⟨nested, ⟨.check "b", []⟩⟩)
      ∧ ∃ fault, fragment .locator .ok ⟨nested, ⟨.navigate "b", []⟩⟩ = .error fault
        ∧ fault.IsBrokenPromise := by
  obtain ⟨-, -, hchain, -⟩ := fragment_addressing .locator .ok nested ⟨.check "b", []⟩
  obtain ⟨-, -, -, -, -, hbroken⟩ := fragment_addressing .locator .ok nested ⟨.navigate "b", []⟩
  constructor
  · exact (hchain rfl (by decide) rfl).1
  · apply hbroken.mpr
    refine ⟨?_, ⟨rfl, .inr rfl, .inr rfl, .inl rfl⟩⟩
    intro url hurl
    cases hurl

end Retrace.Script
