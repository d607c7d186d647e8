import Retrace.Proofs.Script.Arguments
import Retrace.Script.Fragment

/-!
# The literals of calls

The subject of a call is the page or a frame in it, addressed by texts. The call
itself has a selector and arguments. Subjects and calls of one shape are alike,
and their literals are the recorded texts, behind which those of the options of
a click stand.
-/

namespace Retrace.Script

open Literal Recording

section

variable {s s' front back : List Char} {a a' : List (List Char)} {c : Char}

theorem Alike.code_append (h : Alike s s' a a') (front : List Char)
    (hfront : isPlain front = true) :
    Alike (front ++ s) (front ++ s') a a' :=
  (Alike.code hfront).append h

theorem Alike.append_code (h : Alike s s' a a') (hback : isPlain back = true) :
    Alike (s ++ back) (s' ++ back) a a' := by
  have h := h.append (Alike.code hback)
  rwa [List.append_nil, List.append_nil] at h

/-- A value behind a mark that is no part of a name, between texts of code. -/
theorem AlikeValue.enclosed (h : AlikeValue s s' a a') (hfront : isPlain front = true)
    (hc : isMark c = true) (back : List Char) (hback : isPlain back = true) :
    Alike (front ++ c :: s ++ back) (front ++ c :: s' ++ back) a a' := by
  apply Alike.append_code _ hback
  apply Alike.code_append _ front hfront
  exact h.behind hc

/-- A value between the parentheses of a call. -/
theorem AlikeValue.between (h : AlikeValue s s' a a') (hfront : isPlain front = true) :
    Alike (front ++ '(' :: s ++ [')']) (front ++ '(' :: s' ++ [')']) a a' :=
  h.enclosed hfront (by decide +kernel) [')'] (by decide)

end

/-! ## Targets -/

/-- How a frame is addressed, with the texts that address it. -/
inductive Target where
  | page
  | chain (selectors : List String)
  | name (value : String)
  | url (value : String)

/-- How a frame is addressed, its texts aside. -/
inductive Addressing where
  | page
  | chain (length : Nat)
  | name
  | url
  deriving DecidableEq, Repr

namespace Target

def write (page : List Char) : Target → List Char
  | .page => page
  | .chain selectors => page ++ selectors.flatMap frameLocator
  | .name value => frameBy page "name" value
  | .url value => frameBy page "url" value

def addressing : Target → Addressing
  | .page => .page
  | .chain selectors => .chain selectors.length
  | .name _ => .name
  | .url _ => .url

def texts : Target → List (List Char)
  | .page => []
  | .chain selectors => selectors.map String.toList
  | .name value => [value.toList]
  | .url value => [value.toList]

end Target

/-- The target of an operation in a frame, if the frame can be addressed. -/
def target? (f : Frame) (navigation : Bool) : Option Target :=
  if f.isMainFrame then some .page
  else if f.selectorsChain ≠ [] && !navigation then some (.chain f.selectorsChain)
  else
    match usable? f.name, usable? f.url with
    | some name, _ => some (.name name)
    | none, some url => some (.url url)
    | none, none => none

/-- The subject is what the target writes. -/
theorem subject_eq (f : Frame) (navigation : Bool) :
    subject f navigation =
      match target? f navigation with
      | some target => .ok (target.write f.pageAlias.toList)
      | none => .error (.unaddressable f) := by
  unfold subject target?
  dsimp only
  by_cases hmain : f.isMainFrame = true
  · rw [if_pos hmain, if_pos hmain]
    rfl
  rw [if_neg hmain, if_neg hmain]
  by_cases hchain : (decide (f.selectorsChain ≠ []) && !navigation) = true
  · rw [if_pos hchain, if_pos hchain]
    rfl
  rw [if_neg hchain, if_neg hchain]
  cases usable? f.name with
  | some name => rfl
  | none => cases usable? f.url <;> rfl

theorem subject_eq_ok {f : Frame} {navigation : Bool} {s : List Char}
    (h : subject f navigation = .ok s) :
    ∃ target, target? f navigation = some target ∧ s = target.write f.pageAlias.toList := by
  rw [subject_eq] at h
  split at h
  · next target htarget => cases h; exact ⟨target, htarget, rfl⟩
  · cases h

theorem alike_frameLocator (selector selector' : String) :
    Alike (frameLocator selector) (frameLocator selector') [selector.toList]
      [selector'.toList] := by
  have hopen : ".frame_locator(".toList = ".frame_locator".toList ++ ['('] := by decide
  have hcode : isPlain ".frame_locator".toList = true := by decide
  have h := (AlikeValue.quote selector.toList selector'.toList).between hcode
  unfold frameLocator
  rw [hopen]
  generalize ".frame_locator".toList = front at h ⊢
  simpa using h

theorem alike_frameLocators {selectors selectors' : List String}
    (h : selectors.length = selectors'.length) :
    Alike (selectors.flatMap frameLocator) (selectors'.flatMap frameLocator)
      (selectors.map String.toList) (selectors'.map String.toList) := by
  induction selectors generalizing selectors' with
  | nil =>
    obtain rfl : selectors' = [] := List.length_eq_zero_iff.mp h.symm
    exact .nil
  | cons selector selectors ih =>
    cases selectors' with
    | nil => cases h
    | cons selector' selectors' =>
      exact (alike_frameLocator selector selector').append (ih (Nat.succ.inj h))

theorem alike_frameBy {page : List Char} {keyword : String} (hpage : isPlain page = true)
    (hkeyword : isPlain keyword.toList = true) (value value' : String) :
    Alike (frameBy page keyword value) (frameBy page keyword value') [value.toList]
      [value'.toList] := by
  have hcode : isPlain (page ++ ".frame(".toList ++ keyword.toList) = true := by
    have hframe : isPlain ".frame(".toList = true := by decide
    rw [isPlain_append, isPlain_append, hpage, hframe, hkeyword]
    rfl
  exact (AlikeValue.quote value.toList value'.toList).enclosed hcode (by decide +kernel) _
    (by decide)

theorem Target.alike {page : List Char} (hpage : isPlain page = true)
    {target target' : Target} (h : target.addressing = target'.addressing) :
    Alike (target.write page) (target'.write page) target.texts target'.texts := by
  match target, target', h with
  | .page, .page, _ => exact .code hpage
  | .chain selectors, .chain selectors', h =>
    exact (alike_frameLocators (Addressing.chain.inj h)).code_append page hpage
  | .name value, .name value', _ => exact alike_frameBy hpage (by decide) value value'
  | .url value, .url value', _ => exact alike_frameBy hpage (by decide) value value'

/-! ## Operations -/

/-- An operation without its recorded texts. -/
inductive OperationShape where
  | openPage (blank : Bool)
  | closePage
  | click (button : Button) (modifiers : List Modifier) (clickCount : Nat)
    (position : Option Point)
  | check
  | uncheck
  | fill
  | setInputFiles (count : Nat)
  | press
  | navigate
  | select (count : Nat)
  deriving DecidableEq, Repr

def operationShape : Operation → OperationShape
  | .openPage url => .openPage (isBlankPage (Text.strip url.toList))
  | .closePage => .closePage
  | .click c => .click c.button c.modifiers c.clickCount c.position
  | .check _ => .check
  | .uncheck _ => .uncheck
  | .fill .. => .fill
  | .setInputFiles _ files => .setInputFiles files.length
  | .press .. => .press
  | .navigate _ => .navigate
  | .select _ options => .select options.length

/-- The recorded texts of an operation in the order in which they are written. -/
def operationTexts : Operation → List (List Char)
  | .openPage url =>
    if isBlankPage (Text.strip url.toList) then [] else [Text.strip url.toList]
  | .closePage => []
  | .click c => [c.selector.toList]
  | .check selector => [selector.toList]
  | .uncheck selector => [selector.toList]
  | .fill selector text => [selector.toList, text.toList]
  | .setInputFiles selector files => (selector :: files).map String.toList
  | .press selector key modifiers => [selector.toList, shortcut modifiers key]
  | .navigate url => [url.toList]
  | .select selector options => (selector :: options).map String.toList

/-- The literals that an operation has by its shape. -/
def fixedTexts : Operation → List (List Char)
  | .click c => optionTexts c
  | _ => []

/-- What a call is written as where selectors are arguments. -/
def Call.text (c : Call) : List Char :=
  match c.selector with
  | some selector => c.method ++ '(' :: withSelector selector c.arguments ++ [')']
  | none => c.method ++ '(' :: c.arguments ++ [')']

theorem Call.write_selector (c : Call) (adapter : Adapter) :
    c.write .selector adapter = .ok c.text := by
  unfold Call.write Call.text
  cases c.selector <;> rfl

/-- Calls on elements are alike if their arguments are, or if they have none. -/
theorem alike_onElement {method : String} {s s' : List Char} {a a' : List (List Char)}
    (hmethod : isPlain method.toList = true)
    (h : (s = [] ∧ s' = [] ∧ a = [] ∧ a' = []) ∨ AlikeValue s s' a a')
    (selector selector' : String) :
    Alike (onElement selector method s).text (onElement selector' method s').text
      (selector.toList :: a) (selector'.toList :: a') := by
  have hselector := AlikeValue.quote selector.toList selector'.toList
  obtain ⟨rfl, rfl, rfl, rfl⟩ | h := h
  · have h := hselector.between hmethod
    simpa [Call.text, onElement, withSelector] using h
  · have hcomma := (h.behind (c := ' ') (by decide +kernel)).code_append [','] (by decide)
    have h' := (hselector.append hcomma).between hmethod
    simpa [Call.text, onElement, withSelector, h.left, h.right] using h'

/-- Operations that write one or many texts behind a selector are alike for as many texts. -/
theorem alike_oneOrMany {selector selector' method : String} {texts texts' : List String}
    {call call' : Call} (hmethod : isPlain method.toList = true)
    (hlength : texts.length = texts'.length)
    (h : (do return onElement selector method (← literal (oneOrMany texts))) = .ok call)
    (h' : (do return onElement selector' method (← literal (oneOrMany texts'))) = .ok call') :
    Alike call.text call'.text ((selector :: texts).map String.toList)
      ((selector' :: texts').map String.toList) := by
  obtain ⟨s, s', hs, hs', halike⟩ := ofDatum_oneOrMany hlength
  rw [literal, hs] at h
  rw [literal, hs'] at h'
  cases h
  cases h'
  exact alike_onElement hmethod (.inr halike) selector selector'

theorem alike_click {c c' : Click} {call call' : Call} (hbutton : c.button = c'.button)
    (hmodifiers : c.modifiers = c'.modifiers) (hcount : c.clickCount = c'.clickCount)
    (hposition : c.position = c'.position) (h : callOf (.click c) = .ok call)
    (h' : callOf (.click c') = .ok call') :
    Alike call.text call'.text (c.selector.toList :: optionTexts c)
      (c'.selector.toList :: optionTexts c') := by
  have hoptions : clickOptions c = clickOptions c' := by
    rw [clickOptions, clickOptions, hbutton, hmodifiers, hcount, hposition]
  have htexts : optionTexts c = optionTexts c' := by
    rw [optionTexts, optionTexts, buttonTexts, buttonTexts, modifierTexts, modifierTexts,
      positionTexts, positionTexts, hbutton, hmodifiers, hposition]
  obtain ⟨s, hs, h⟩ := Result.bind_eq_ok.mp h
  obtain ⟨s', hs', h'⟩ := Result.bind_eq_ok.mp h'
  rw [hoptions, hs'] at hs
  cases hs
  cases h
  cases h'
  have hmethod : isPlain (clickMethod c'.clickCount).toList = true := by
    unfold clickMethod
    split <;> decide
  rw [hcount, htexts]
  apply alike_onElement hmethod
  exact (alikeValue_clickOptions hs').imp_left fun hnone => ⟨hnone.1, hnone.1, hnone.2, hnone.2⟩

/-- Calls of operations of one shape are alike. -/
theorem alike_callOf {o o' : Operation} {call call' : Call}
    (hshape : operationShape o = operationShape o') (hcall : callOf o = .ok call)
    (hcall' : callOf o' = .ok call') :
    Alike call.text call'.text (operationTexts o ++ fixedTexts o)
      (operationTexts o' ++ fixedTexts o') := by
  match o, o', hshape with
  | .openPage _, .openPage _, _ => cases hcall
  | .closePage, .closePage, _ =>
    cases hcall
    cases hcall'
    exact .code (by decide)
  | .click c, .click c', h =>
    obtain ⟨hbutton, hmodifiers, hcount, hposition⟩ := OperationShape.click.inj h
    exact alike_click hbutton hmodifiers hcount hposition hcall hcall'
  | .check selector, .check selector', _ =>
    cases hcall
    cases hcall'
    exact alike_onElement (by decide) (.inl ⟨rfl, rfl, rfl, rfl⟩) selector selector'
  | .uncheck selector, .uncheck selector', _ =>
    cases hcall
    cases hcall'
    exact alike_onElement (by decide) (.inl ⟨rfl, rfl, rfl, rfl⟩) selector selector'
  | .fill selector text, .fill selector' text', _ =>
    cases hcall
    cases hcall'
    exact alike_onElement (by decide) (.inr (.quote _ _)) selector selector'
  | .setInputFiles selector files, .setInputFiles selector' files', h =>
    simp only [fixedTexts, List.append_nil]
    exact alike_oneOrMany (by decide) (OperationShape.setInputFiles.inj h) hcall hcall'
  | .press selector key modifiers, .press selector' key' modifiers', _ =>
    cases hcall
    cases hcall'
    exact alike_onElement (by decide) (.inr (.quote _ _)) selector selector'
  | .navigate url, .navigate url', _ =>
    cases hcall
    cases hcall'
    have hmethod : isPlain "goto".toList = true := by decide
    exact (AlikeValue.quote url.toList url'.toList).between hmethod
  | .select selector options, .select selector' options', h =>
    simp only [fixedTexts, List.append_nil]
    exact alike_oneOrMany (by decide) (OperationShape.select.inj h) hcall hcall'

end Retrace.Script
