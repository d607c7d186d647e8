import Retrace.Proofs.Result
import Retrace.Proofs.Text.Join
import Retrace.Script.Fragment

/-!
# Signals around a call

A call is written once, inside the blocks for the events that its signals
announce: the download outside, the new page inside. The line that takes the
value of an event follows its block, and the handler for dialogs precedes
everything. Of each kind only the first signal is looked at, and of dialogs only
whether there is one.
-/

namespace Retrace.Script

open Outline Recording

/-! ## Kinds -/

inductive SignalKind where
  | dialog
  | popup
  | download
  | navigation
  deriving DecidableEq, Repr

def signalKind : Signal → SignalKind
  | .dialog _ => .dialog
  | .popup _ => .popup
  | .download _ => .download
  | .navigation _ => .navigation

/-- A choice of signals that takes all those of one kind and no others. -/
def Takes (gives : Signal → Option String) (kind : SignalKind) : Prop :=
  ∀ s, (gives s).isSome = true ↔ signalKind s = kind

theorem takes_dialog : Takes Signal.dialog? .dialog := by
  intro s
  cases s <;> simp [Signal.dialog?, signalKind]

theorem takes_popup : Takes Signal.popup? .popup := by
  intro s
  cases s <;> simp [Signal.popup?, signalKind]

theorem takes_download : Takes Signal.download? .download := by
  intro s
  cases s <;> simp [Signal.download?, signalKind]

section

variable {gives : Signal → Option String} {kind : SignalKind}

theorem Takes.eq_none (h : Takes gives kind) {s : Signal} (hs : signalKind s ≠ kind) :
    gives s = none := by
  rw [← Option.not_isSome_iff_eq_none, h s]
  exact hs

theorem Takes.isSome_findSome? (h : Takes gives kind) (signals : List Signal) :
    (signals.findSome? gives).isSome = true ↔ ∃ s ∈ signals, signalKind s = kind := by
  simp only [List.isSome_findSome?, List.any_eq_true, h _]

/-- Signals of other kinds make no difference. -/
theorem Takes.findSome?_filter (h : Takes gives kind) (signals : List Signal) :
    (signals.filter (signalKind · = kind)).findSome? gives = signals.findSome? gives := by
  induction signals with
  | nil => rfl
  | cons s signals ih =>
    by_cases hs : signalKind s = kind
    · rw [List.filter_cons_of_pos (by simpa using hs), List.findSome?_cons, List.findSome?_cons, ih]
    · rw [List.filter_cons_of_neg (by simpa using hs), List.findSome?_cons, h.eq_none hs, ih]

/-- A signal of another kind, or one behind a signal of its own kind, makes no difference. -/
theorem Takes.findSome?_insert (h : Takes gives kind) {before : List Signal} {s : Signal}
    (hs : signalKind s = kind → ∃ s' ∈ before, signalKind s' = kind) (after : List Signal) :
    (before ++ s :: after).findSome? gives = (before ++ after).findSome? gives := by
  rw [List.findSome?_append, List.findSome?_append]
  by_cases hkind : signalKind s = kind
  · obtain ⟨name, hname⟩ := Option.isSome_iff_exists.mp ((h.isSome_findSome? before).mpr (hs hkind))
    rw [hname, Option.some_or, Option.some_or]
  · rw [List.findSome?_cons, h.eq_none hkind]

end

/-! ## Lists that a script cannot tell apart -/

/-- Two lists of signals with a dialog both or neither, and with the same first names. -/
structure SameEffects (signals signals' : List Signal) : Prop where
  dialog : (∃ s ∈ signals, signalKind s = .dialog) ↔ ∃ s ∈ signals', signalKind s = .dialog
  popup : signals.findSome? Signal.popup? = signals'.findSome? Signal.popup?
  download : signals.findSome? Signal.download? = signals'.findSome? Signal.download?

theorem sameEffects_of_findSome? {signals signals' : List Signal}
    (h : ∀ gives kind, kind ≠ .navigation → Takes gives kind →
      signals.findSome? gives = signals'.findSome? gives) : SameEffects signals signals' := by
  constructor
  case dialog =>
    rw [← takes_dialog.isSome_findSome?, ← takes_dialog.isSome_findSome?,
      h _ _ (by decide) takes_dialog]
  case popup => exact h _ _ (by decide) takes_popup
  case download => exact h _ _ (by decide) takes_download

/-- Navigations count nowhere. -/
theorem sameEffects_navigation (before : List Signal) (url : String) (after : List Signal) :
    SameEffects (before ++ .navigation url :: after) (before ++ after) := by
  apply sameEffects_of_findSome?
  intro gives kind hkind htakes
  apply htakes.findSome?_insert
  intro hs
  exact absurd hs.symm hkind

/-- Behind a signal of its kind no other counts. -/
theorem sameEffects_later {before : List Signal} {s : Signal}
    (hs : ∃ s' ∈ before, signalKind s' = signalKind s) (after : List Signal) :
    SameEffects (before ++ s :: after) (before ++ after) := by
  apply sameEffects_of_findSome?
  intro gives kind _ htakes
  exact htakes.findSome?_insert (fun hkind => hkind ▸ hs) after

/-- The order counts within each kind alone. -/
theorem sameEffects_of_filter {signals signals' : List Signal}
    (h : ∀ kind, signals.filter (signalKind · = kind) = signals'.filter (signalKind · = kind)) :
    SameEffects signals signals' := by
  apply sameEffects_of_findSome?
  intro gives kind _ htakes
  rw [← htakes.findSome?_filter signals, h kind, htakes.findSome?_filter]

/-! ## Blocks -/

/-- An event that is awaited around a call: the method that awaits it, and the name of its value. -/
structure Awaited where
  method : String
  name : List Char
  deriving DecidableEq, Repr

namespace Awaited

def header (page : List Char) (a : Awaited) : List Char :=
  "with ".toList ++ page ++ '.' :: a.method.toList ++ "() as ".toList ++ a.name ++ "_info:".toList

def assignment (a : Awaited) : List Char :=
  a.name ++ " = ".toList ++ a.name ++ "_info.value".toList

theorem header_ne_nil (page : List Char) (a : Awaited) : a.header page ≠ [] :=
  List.append_ne_nil_of_right_ne_nil _ (by decide)

theorem assignment_ne_nil (a : Awaited) : a.assignment ≠ [] := by
  simp [assignment]

end Awaited

/-- The events that some signals announce, the outermost first. -/
def awaited (signals : List Signal) : List Awaited :=
  ((signals.findSome? Signal.download?).map fun suffix =>
    ⟨"expect_download", "download".toList ++ suffix.toList⟩).toList
  ++ ((signals.findSome? Signal.popup?).map fun handle =>
    ⟨"expect_popup", handle.toList⟩).toList

/-- Some nodes inside one block for each event. -/
def nest (page : List Char) (events : List Awaited) (body : List Node) : List Node :=
  events.foldr (fun a inner => expecting page a.method a.name inner) body

theorem nest_cons (page : List Char) (a : Awaited) (events : List Awaited) (body : List Node) :
    nest page (a :: events) body
      = [.block (a.header page) (nest page events body), .line a.assignment] := rfl

/-- The handler for dialogs, the blocks for the events, and the call inside them. -/
theorem withEffects_ofSignals (page call : List Char) (signals : List Signal) :
    withEffects page (.ofSignals signals) call
      = (if ∃ s ∈ signals, signalKind s = .dialog then [dismissDialog page] else [])
        ++ nest page (awaited signals) [.line call] := by
  have hdialog := takes_dialog.isSome_findSome? signals
  simp only [withEffects, Effects.ofSignals, awaited, ← hdialog]
  cases signals.findSome? Signal.popup? <;> cases signals.findSome? Signal.download? <;>
    cases signals.findSome? Signal.dialog? <;> simp [nest]

/-! ## Lines -/

/-- A line of the body inside some blocks. -/
def lineAt (blocks : Nat) (text : List Char) : List Char :=
  List.replicate (4 + 4 * blocks) ' ' ++ text

theorem indented_eq_lineAt {text : List Char} (h : text ≠ []) (blocks : Nat) :
    indented (List.replicate bodyOffset ' ') blocks text = lineAt blocks text := by
  rw [indented_of_ne_nil h, indentation, Int.toNat_natCast, List.replicate_append_replicate]
  rfl

/-- From the outermost event inwards the headers, then the call, then the assignments outwards. -/
theorem renderAll_nest {call : List Char} (hcall : call ≠ []) (page : List Char)
    (events : List Awaited) (blocks : Nat) :
    renderAll (List.replicate bodyOffset ' ') blocks (nest page events [.line call])
      = (events.mapIdx fun i a => lineAt (blocks + i) (a.header page))
        ++ lineAt (blocks + events.length) call
        :: (events.mapIdx fun i a => lineAt (blocks + i) a.assignment).reverse := by
  induction events generalizing blocks with
  | nil => simp [nest, renderAll_cons, Node.render, indented_eq_lineAt hcall]
  | cons a events ih =>
    have hdeeper : (blocks : Int) + 1 = ((blocks + 1 : Nat) : Int) := by push_cast; rfl
    have hshift (i : Nat) : blocks + 1 + i = blocks + (i + 1) := by omega
    rw [nest_cons, renderAll_cons, renderAll_cons, Node.render, Node.render, hdeeper, ih,
      indented_eq_lineAt (a.header_ne_nil page), indented_eq_lineAt a.assignment_ne_nil]
    simp [List.mapIdx_cons, hshift]

/-! ## Fragments -/

/-- An entry with other signals. -/
def withSignals (e : Entry) (signals : List Signal) : Entry :=
  { e with action := { e.action with signals } }

/-- The lines of a call under its signals. -/
def signalLines (page : List Char) (signals : List Signal) (call : List Char) :
    List (List Char) :=
  (if ∃ s ∈ signals, signalKind s = .dialog then
      [lineAt 0 (page ++ ".once(\x22dialog\x22, lambda dialog: dialog.dismiss())".toList)]
    else [])
  ++ ((awaited signals).mapIdx fun i a => lineAt i (a.header page))
  ++ lineAt (awaited signals).length call
  :: ((awaited signals).mapIdx fun i a => lineAt i a.assignment).reverse

theorem renderAll_dismissDialog (page : List Char) :
    renderAll (List.replicate bodyOffset ' ') 0 [dismissDialog page]
      = [lineAt 0 (page ++ ".once(\x22dialog\x22, lambda dialog: dialog.dismiss())".toList)] := by
  have hne : page ++ ".once(\x22dialog\x22, lambda dialog: dialog.dismiss())".toList ≠ [] :=
    List.append_ne_nil_of_right_ne_nil _ (by decide)
  rw [dismissDialog, renderAll_cons, Node.render, renderAll_nil, List.append_nil]
  exact congrArg (fun line => [line]) (indented_eq_lineAt hne 0)

theorem textOf_withEffects {call : List Char} (hcall : call ≠ []) (page : List Char)
    (signals : List Signal) :
    textOf bodyOffset (withEffects page (.ofSignals signals) call)
      = Text.joinLines (signalLines page signals call) := by
  have hblocks := renderAll_nest hcall page (awaited signals) 0
  simp only [Nat.zero_add] at hblocks
  have hdialog : renderAll (List.replicate bodyOffset ' ') 0
      (if ∃ s ∈ signals, signalKind s = .dialog then [dismissDialog page] else [])
      = if ∃ s ∈ signals, signalKind s = .dialog then
          [lineAt 0 (page ++ ".once(\x22dialog\x22, lambda dialog: dialog.dismiss())".toList)]
        else [] := by
    split
    · exact renderAll_dismissDialog page
    · rfl
  rw [withEffects_ofSignals, textOf, renderAll_append, signalLines, hdialog, List.append_assoc]
  exact congrArg (fun lines => Text.joinLines (_ ++ lines)) hblocks

theorem SameEffects.withEffects_eq {signals signals' : List Signal}
    (h : SameEffects signals signals') (page call : List Char) :
    withEffects page (.ofSignals signals) call = withEffects page (.ofSignals signals') call := by
  rw [withEffects_ofSignals, withEffects_ofSignals, awaited, awaited, h.popup, h.download]
  simp only [h.dialog]

section

variable {e : Entry} (hcall : ∀ url, e.action.operation ≠ .openPage url) (style : Style)
  (adapter : Adapter)

include hcall

/-- Signals decide neither whether a call can be written nor what it is. -/
theorem nodes_withSignals (signals : List Signal) :
    nodes style adapter (withSignals e signals) = do
      let subject ← subject e.frame (isNavigation e.action.operation)
      let call ← writeOperation style adapter e.action.operation
      return withEffects e.frame.pageAlias.toList (.ofSignals signals) (subject ++ '.' :: call) :=
  nodes_of_call (e := withSignals e signals) hcall style adapter

theorem SameEffects.fragment_eq {signals signals' : List Signal}
    (h : SameEffects signals signals') :
    fragment style adapter (withSignals e signals)
      = fragment style adapter (withSignals e signals') := by
  rw [fragment, fragment, nodes_withSignals hcall, nodes_withSignals hcall]
  simp only [h.withEffects_eq]

variable {style adapter}

/-- An entry with a fragment has a call, which stands in its fragment whatever its signals are. -/
theorem exists_call {s : List Char} (h : fragment style adapter e = .ok s) :
    ∃ call, ∀ signals, fragment style adapter (withSignals e signals)
      = .ok (Text.joinLines (signalLines e.frame.pageAlias.toList signals call)) := by
  obtain ⟨ns, hns, -⟩ := Result.map_eq_ok.mp h
  rw [nodes_of_call hcall] at hns
  obtain ⟨subject, hsubject, hns⟩ := Result.bind_eq_ok.mp hns
  obtain ⟨text, htext, -⟩ := Result.bind_eq_ok.mp hns
  have hne : subject ++ '.' :: text ≠ [] := by simp
  refine ⟨subject ++ '.' :: text, ?_⟩
  intro signals
  rw [fragment, nodes_withSignals hcall, hsubject, htext, ← textOf_withEffects hne]
  rfl

/-- Without signals a call is one line of the body, and with signals the same call stands once
inside its blocks. Nothing but the presence of a dialog and the first names of a new page and a
download is read off the signals: not a navigation, not a later signal of a kind, and not how
signals of different kinds are ordered. -/
theorem fragment_signals {s : List Char} (h : fragment style adapter e = .ok s) :
    (∃ call, fragment style adapter (withSignals e []) = .ok (List.replicate 4 ' ' ++ call)
      ∧ ∀ signals, fragment style adapter (withSignals e signals)
        = .ok (Text.joinLines (signalLines e.frame.pageAlias.toList signals call)))
    ∧ (∀ signals signals', SameEffects signals signals' →
      fragment style adapter (withSignals e signals)
        = fragment style adapter (withSignals e signals'))
    ∧ (∀ before url after,
      fragment style adapter (withSignals e (before ++ .navigation url :: after))
        = fragment style adapter (withSignals e (before ++ after)))
    ∧ (∀ before signal after, (∃ first ∈ before, signalKind first = signalKind signal) →
      fragment style adapter (withSignals e (before ++ signal :: after))
        = fragment style adapter (withSignals e (before ++ after)))
    ∧ (∀ signals signals',
      (∀ kind, signals.filter (signalKind · = kind) = signals'.filter (signalKind · = kind)) →
      fragment style adapter (withSignals e signals)
        = fragment style adapter (withSignals e signals')) := by
  refine ⟨?_, ?_, ?_, ?_, ?_⟩
  · obtain ⟨call, hfragment⟩ := exists_call hcall h
    refine ⟨call, ?_, hfragment⟩
    rw [hfragment []]
    simp [signalLines, awaited, lineAt, Text.joinLines]
  · intro signals signals' hsame
    exact hsame.fragment_eq hcall style adapter
  · intro before url after
    exact (sameEffects_navigation before url after).fragment_eq hcall style adapter
  · intro before signal after hfirst
    exact (sameEffects_later hfirst after).fragment_eq hcall style adapter
  · intro signals signals' hfilter
    exact (sameEffects_of_filter hfilter).fragment_eq hcall style adapter

end

/-- A box on the page that is ticked. -/
def ticking : Entry := ⟨⟨"page", true, [], none, none⟩, ⟨.check "#b", []⟩⟩

theorem fragment_signals_ticking :
    (∀ url, ticking.action.operation ≠ .openPage url) ∧
    fragment .selector .ok ticking = .ok "    page.check(\x22#b\x22)".toList ∧
    fragment .selector .ok (withSignals ticking
        [.popup "page1", .navigation "/", .dialog "", .download "", .popup "page2"])
      = .ok ("    page.once(\x22dialog\x22, lambda dialog: dialog.dismiss())\n".toList
        ++ "    with page.expect_download() as download_info:\n".toList
        ++ "        with page.expect_popup() as page1_info:\n".toList
        ++ "            page.check(\x22#b\x22)\n".toList
        ++ "        page1 = page1_info.value\n".toList
        ++ "    download = download_info.value".toList) ∧
    fragment .selector .ok (withSignals ticking [.dialog "", .navigation "/", .popup "page1"])
      = fragment .selector .ok (withSignals ticking [.dialog "", .popup "page1"]) := by
  have hcall : ∀ url, ticking.action.operation ≠ .openPage url := nofun
  have hok : fragment .selector .ok ticking = .ok "    page.check(\x22#b\x22)".toList := by
    rfl
  obtain ⟨⟨call, hplain, hsignals⟩, -, hnavigation, -⟩ := fragment_signals hcall hok
  have hline : List.replicate 4 ' ' ++ call = "    page.check(\x22#b\x22)".toList :=
    Except.ok.inj (hplain.symm.trans hok)
  have hwritten : call = "page.check(\x22#b\x22)".toList := by
    have hspaces : List.replicate 4 ' ' ++ "page.check(\x22#b\x22)".toList
        = "    page.check(\x22#b\x22)".toList := by
      decide
    exact List.append_cancel_left (hline.trans hspaces.symm)
  refine ⟨hcall, hok, ?_, hnavigation [.dialog ""] "/" [.popup "page1"]⟩
  rw [hsignals, hwritten]
  exact congrArg Except.ok (by decide +kernel)

end Retrace.Script
