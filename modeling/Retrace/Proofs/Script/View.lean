import Retrace.Proofs.Locator.View
import Retrace.Proofs.Outline.View
import Retrace.Proofs.Script.Signals
import Retrace.Script.Records

/-!
# Scripts in every view

The halves of surrogate pairs in settings and in the quoted values of selectors are copied into a
script. Nothing else in it depends on them, so it has the same code points in every inert view,
or it cannot be made for the same fault in all of them.
-/

namespace Retrace.Script

open Literal Outline Recording Text

/-! ## Fragments -/

theorem isUniform_writeOperation (style : Style) (o : Operation) :
    IsUniform IsShown fun v => writeOperation style (@Locator.ofSelector v.toView) o := by
  simp only [writeOperation]
  cases callOf o with
  | error fault => exact .error fault
  | ok call =>
    obtain ⟨selector?, method, arguments⟩ := call
    cases selector? with
    | none => exact .ok (.const _)
    | some selector =>
      cases style with
      | selector => exact .ok (.const _)
      | locator =>
        apply ((Locator.isUniform_ofSelector selector).mapError _).bind
        intro locator hlocator
        exact .ok (((hlocator.append (.const _)).append (.const _)).append (.const _))

theorem areShown_nest (page : List Char) (events : List Awaited) {body : InertView → List Node}
    (h : AreShown body) : AreShown fun v => nest page events (body v) := by
  induction events with
  | nil => exact h
  | cons a events ih =>
    simp only [nest_cons]
    exact (AreShown.block (.const _) ih).append (.const [.line a.assignment])

theorem areShown_withEffects (page : List Char) (signals : List Signal)
    {call : InertView → List Char} (h : IsShown call) :
    AreShown fun v => withEffects page (.ofSignals signals) (call v) := by
  simp only [withEffects_ofSignals]
  exact (AreShown.const _).append (areShown_nest page _ (.line h))

theorem isUniform_fragment (style : Style) (e : Entry) :
    IsUniform IsShown fun v => fragment style (@Locator.ofSelector v.toView) e := by
  have hnodes : IsUniform AreShown fun v => nodes style (@Locator.ofSelector v.toView) e := by
    by_cases hopen : ∃ url, e.action.operation = .openPage url
    · -- The address of a page is a text of the recording, and those have no halves.
      obtain ⟨url, hopen⟩ := hopen
      simp only [nodes_openPage hopen]
      exact .ok (.const _)
    · simp only [nodes_of_call fun url hurl => hopen ⟨url, hurl⟩]
      cases subject e.frame (isNavigation e.action.operation) with
      | error fault => exact .error fault
      | ok subject =>
        apply (isUniform_writeOperation style e.action.operation).bind
        intro call hcall
        exact .ok (areShown_withEffects _ _ ((IsShown.const subject).append (hcall.cons '.')))
  exact hnodes.map fun _ h => h.textOf bodyOffset

theorem isUniform_fragmentsFrom {α : Type} {write : InertView → α → Except Fault (List Char)}
    (h : ∀ e, IsUniform IsShown fun v => write v e) (index : Nat) (recording : List α) :
    IsUniform (Each IsShown) fun v => fragmentsFrom (write v) index recording := by
  induction recording generalizing index with
  | nil => exact .ok .nil
  | cons e recording ih =>
    apply ((h e).mapError _).bind
    intro first hfirst
    apply (ih (index + 1)).bind
    intro others hothers
    exact .ok (hothers.cons hfirst)

/-! ## Headers -/

theorem isShown_taskTemplate {options : InertView → List Char} (h : IsShown options) :
    IsShown fun v => taskTemplate (options v) := by
  have hline : Each IsShown fun v => [options v ++ [',']] := Each.nil.cons (h.append (.const _))
  have hfixed (lines : List (List Char)) : Each IsShown fun _ => lines :=
    .const fun line _ => .const line
  exact .intercalate ['\n'] (((hfixed _).append hline).append (hfixed _))

theorem isUniform_taskHeader (o : Options) :
    IsUniform IsShown fun v => @taskHeader v.toView o := by
  simp only [taskHeader]
  apply ((Literal.Options.isUniform_write _ (configureOptions o)).mapError _).bind
  intro options hoptions
  obtain hnone | ⟨text, htext, hread⟩ := text?_add (isShown_taskTemplate hoptions)
  · simp only [hnone]
    exact .error _
  · simp only [hread]
    exact .ok htext

theorem isUniform_writeOptions (options : Literal.Options) :
    IsUniform IsShown fun v => @writeOptions v.toView options :=
  (Literal.Options.isUniform_write {} options).mapError _

theorem isUniform_runHeader (o : Options) :
    IsUniform IsShown fun v => @runHeader v.toView o := by
  simp only [runHeader]
  apply (isUniform_writeOptions (launchOptions o)).bind
  intro launch hlaunch
  cases contextOptions o with
  | error fault => exact .error fault
  | ok options =>
    apply (isUniform_writeOptions options).bind
    intro context hcontext
    have hbrowser : IsShown fun v => "browser = playwright.".toList
        ++ (@Datum.viewed v.toView o.browserName).plain.toList ++ ".launch(".toList
        ++ launch v ++ [')'] :=
      ((((IsShown.const _).append (isShown_plain o.browserName)).append (.const _)).append
        hlaunch).append (.const _)
    have hpage : IsShown fun v => "context = browser.new_context(".toList ++ context v ++ [')'] :=
      ((IsShown.const _).append hcontext).append (.const _)
    have hbody := ((AreShown.line hbrowser).append (.line hpage)).append
      (.const [line "page = context.new_page()"])
    have himports := AreShown.const [line "import re",
      line "from playwright.sync_api import Playwright, sync_playwright, expect", line "", line ""]
    exact .ok ((himports.append (.block (.const _) hbody)).textOf 0)

theorem isUniform_header (language : Language) (o : Options) :
    IsUniform IsShown fun v => @header v.toView language o := by
  cases language with
  | robocorp => exact isUniform_taskHeader o
  | python => exact isUniform_runHeader o

/-! ## Footers -/

theorem text?_viewed (d : Datum) : (∀ v : InertView, (@Datum.viewed v.toView d).text? = none)
    ∨ ∃ text, IsShown text
      ∧ ∀ v : InertView, (@Datum.viewed v.toView d).text? = some (String.ofList (text v)) := by
  obtain hsame | ⟨points, hshown⟩ := viewed_eq_self_or d
  · simp only [hsame]
    cases d.text? with
    | none => exact .inl fun _ => rfl
    | some s => exact .inr ⟨_, .const s.toList, fun _ => congrArg some String.ofList_toList.symm⟩
  · simp only [hshown]
    exact .inr ⟨_, .shown points, fun _ => rfl⟩

theorem areShown_storageNodes (context : String) (d : Datum) :
    AreShown fun v => storageNodes context (@Datum.viewed v.toView d).text? := by
  obtain hnone | ⟨text, hshown, htext⟩ := text?_viewed d
  · simp only [hnone]
    exact .const _
  · have hempty (v : InertView) : String.ofList (text v) = "" ↔ text v = [] := by
      rw [← String.toList_inj, String.toList_ofList]
      rfl
    simp only [htext, storageNodes, usable?, hempty]
    obtain hnil | hne := @IsShown.eq_or_ne text [] rfl hshown
    · simp only [hnil, if_true]
      exact .const _
    · simp only [if_neg (hne _), Option.toList_some, List.map_singleton, storageLine,
        String.toList_ofList]
      exact .line ((((IsShown.const _).append (.const _)).append (isShown_quote hshown)).append
        (.const _))

theorem isShown_footer (language : Language) (d : Datum) :
    IsShown fun v => footer language (@Datum.viewed v.toView d).text? := by
  cases language with
  | robocorp =>
    have hnodes := ((AreShown.const [line ""]).append
      (areShown_storageNodes "browser.context()" d)).append (.const [endMark])
    exact hnodes.textOf bodyOffset
  | python =>
    have hnodes := ((AreShown.const [line "", endMark]).append
      (areShown_storageNodes "context" d)).append
        (.const [line "context.close()", line "browser.close()"])
    exact ((hnodes.textOf bodyOffset).append (.const _)).append (.const _)

/-! ## Whole scripts -/

theorem isShown_join {header footer : InertView → List Char}
    {fragments : InertView → List (List Char)} (hheader : IsShown header)
    (hfragments : Each IsShown fragments) (hfooter : IsShown footer) :
    IsShown fun v => join (header v) (fragments v) (footer v) := by
  have hkept : Each IsShown fun v => (fragments v).filter (· != []) := by
    refine hfragments.filter fun text htext => ?_
    obtain hnil | hne := @IsShown.eq_or_ne text [] rfl htext
    · exact ⟨false, fun v => bne_eq_false_iff_eq.mpr (hnil v)⟩
    · exact ⟨true, fun v => bne_iff_ne.mpr (hne v)⟩
  exact .intercalate ['\n'] ((hkept.cons hheader).append (Each.nil.cons hfooter))

/-- A script has the same code points in every inert view, or none for the same fault. -/
theorem isUniform_script (language : Language) (style : Style) (recording : List Entry)
    (o : Options) (saveStorage : Datum) : IsUniform IsShown fun v =>
      @Generator.script v.toView ⟨language, style, @Locator.ofSelector v.toView⟩ recording o
        (@Datum.viewed v.toView saveStorage).text? := by
  apply (isUniform_header language o).bind
  intro header hheader
  apply (isUniform_fragmentsFrom (isUniform_fragment style) 0 recording).bind
  intro fragments hfragments
  exact .ok (isShown_join hheader hfragments (isShown_footer language saveStorage))

/-! ## Records -/

/-- A record of one level and one topic whose message has the same code points in every inert
view. -/
def RecordIsAlike (r : InertView → Log.Record) : Prop :=
  ∃ level topic, ∃ points : List Nat, (∀ n ∈ points, IsPoint n)
    ∧ ∀ v, r v = ⟨level, topic, String.ofList (v.shown points)⟩

theorem recordIsAlike (level : Log.Level) (topic : String) {message : InertView → List Char}
    (h : IsShown message) : RecordIsAlike fun v => ⟨level, topic, String.ofList (message v)⟩ := by
  obtain ⟨points, hpoints, hsame⟩ := h.exists_points
  exact ⟨level, topic, points, hpoints, fun v =>
    congrArg (fun text => Log.Record.mk level topic (String.ofList text)) (hsame v)⟩

theorem recordIsAlike_const (r : Log.Record) : RecordIsAlike fun _ => r := by
  obtain ⟨level, topic, message⟩ := r
  have h := recordIsAlike level topic (IsShown.const message.toList)
  rwa [String.ofList_toList] at h

theorem recordIsAlike_locator (selector : List Char) {locator : InertView → List Char}
    (h : IsShown locator) : RecordIsAlike fun v => locatorRecord selector (locator v) := by
  have hmessage (v : InertView) : locatorRecord selector (locator v)
      = ⟨.debug, "recgen.codegen.locators",
        String.ofList ("セレクタを変換しました: ".toList ++ selector ++ " → ".toList ++ locator v)⟩ := by
    simp only [locatorRecord, Log.debug, String.ofList_append, String.ofList_toList]
    rfl
  simp only [hmessage]
  exact recordIsAlike _ _ ((IsShown.const _).append h)

section

variable (language : Language) (style : Style)

theorem each_locatorRecords (o : Operation) : Each RecordIsAlike fun v =>
    Generator.locatorRecords ⟨language, style, @Locator.ofSelector v.toView⟩ o := by
  simp only [Generator.locatorRecords]
  cases style with
  | selector => exact .nil
  | locator =>
    cases callOf o with
    | error fault => exact .nil
    | ok call =>
      obtain ⟨selector?, method, arguments⟩ := call
      cases selector? with
      | none => exact .nil
      | some selector =>
        obtain ⟨fault, hfault⟩ | ⟨locator, hshown, hlocator⟩ :=
          Locator.isUniform_ofSelector selector
        · simp only [hfault]
          exact .nil
        · simp only [hlocator]
          exact Each.nil.cons (recordIsAlike_locator selector hshown)

theorem each_entryRecords (e : Entry) : Each RecordIsAlike fun v =>
    Generator.entryRecords ⟨language, style, @Locator.ofSelector v.toView⟩ e := by
  simp only [Generator.entryRecords]
  split
  · exact .nil
  · split
    · exact (each_locatorRecords language style _).append
        (.const fun r _ => recordIsAlike_const r)
    · exact .nil

theorem isFixed_isWritten (e : Entry) : IsFixed fun v =>
    Generator.isWritten ⟨language, style, @Locator.ofSelector v.toView⟩ e := by
  simp only [Generator.isWritten, Generator.fragment]
  obtain ⟨fault, hfault⟩ | ⟨text, -, htext⟩ := isUniform_fragment style e
  · simp only [hfault]
    exact ⟨false, fun _ => rfl⟩
  · simp only [htext]
    exact ⟨true, fun _ => rfl⟩

/-- What is recorded of a script has the same code points in every inert view. -/
theorem each_records (name : String) (recording : List Entry) (o : Options) :
    Each RecordIsAlike fun v => @Generator.records v.toView
      ⟨language, style, @Locator.ofSelector v.toView⟩ name recording o := by
  have hfixed (records : List Log.Record) : Each RecordIsAlike fun _ => records :=
    .const fun r _ => recordIsAlike_const r
  choose isWritten hwritten using isFixed_isWritten language style
  have hwritten (v : InertView) :
      Generator.isWritten ⟨language, style, @Locator.ofSelector v.toView⟩ = isWritten :=
    funext fun e => hwritten e v
  simp only [Generator.records, hwritten]
  refine (hfixed _).append ?_
  obtain ⟨fault, hfault⟩ | ⟨head, -, hhead⟩ := isUniform_header language o
  · simp only [hfault]
    exact .nil
  · simp only [hhead]
    exact (Each.flatMap_const (each_entryRecords language style) _).append (hfixed _)

end

end Retrace.Script
