import Retrace.Proofs.Script.Calls
import Retrace.Proofs.Text.Join

/-!
# No recorded text leaves its literal

The shape of an entry is all of it but its recorded texts: the kind of the
operation with its numbers and keys, the way in which the frame is addressed,
how many texts there are, and the events to wait for. Fragments of entries of
one shape read as the same code, and the literals of a fragment are the recorded
texts in their order, between the few that are fixed.
-/

namespace Retrace.Script

open Literal Outline Recording

/-! ## Lines -/

/-- Nodes whose rendered lines, joined, are alike at every depth. -/
structure AlikeNodes (nodes nodes' : List Node) (a a' : List (List Char)) : Prop where
  left : nodes ≠ []
  right : nodes' ≠ []
  alike : ∀ depth, Alike
    (Text.joinLines (renderAll (List.replicate bodyOffset ' ') depth nodes))
    (Text.joinLines (renderAll (List.replicate bodyOffset ' ') depth nodes')) a a'

theorem renderAll_ne_nil {nodes : List Node} (h : nodes ≠ []) (offset : List Char) (depth : Int) :
    renderAll offset depth nodes ≠ [] := by
  cases nodes with
  | nil => exact absurd rfl h
  | cons node nodes =>
    rw [renderAll_cons]
    cases node <;> simp [Node.render]

section

variable {nodes nodes' more more' : List Node} {s s' : List Char} {a a' b b' : List (List Char)}

theorem AlikeNodes.append (h : AlikeNodes nodes nodes' a a') (hmore : AlikeNodes more more' b b') :
    AlikeNodes (nodes ++ more) (nodes' ++ more') (a ++ b) (a' ++ b') := by
  refine ⟨by simp [h.left], by simp [h.right], ?_⟩
  intro depth
  rw [renderAll_append, renderAll_append,
    Text.joinLines_append (renderAll_ne_nil h.left _ _) (renderAll_ne_nil hmore.left _ _),
    Text.joinLines_append (renderAll_ne_nil h.right _ _) (renderAll_ne_nil hmore.right _ _)]
  exact (h.alike depth).append ((hmore.alike depth).code_append ['\n'] (by decide))

theorem alike_indented (h : Alike s s' a a') (hs : s ≠ []) (hs' : s' ≠ []) (depth : Int) :
    Alike (indented (List.replicate bodyOffset ' ') depth s)
      (indented (List.replicate bodyOffset ' ') depth s') a a' := by
  rw [indented_of_ne_nil hs, indented_of_ne_nil hs']
  have hspaces (n : Nat) : isPlain (List.replicate n ' ') = true := by
    apply List.all_eq_true.mpr
    intro c hc
    rw [List.eq_of_mem_replicate hc]
    decide
  apply h.code_append
  rw [isPlain_append, hspaces]
  exact hspaces _

theorem AlikeNodes.line (h : Alike s s' a a') (hs : s ≠ []) (hs' : s' ≠ []) :
    AlikeNodes [.line s] [.line s'] a a' := by
  refine ⟨by simp, by simp, ?_⟩
  intro depth
  simpa [renderAll_cons, Node.render] using alike_indented h hs hs' depth

/-- A block under a header of code. -/
theorem AlikeNodes.block {header : List Char} (hheader : isPlain header = true)
    (hne : header ≠ []) (h : AlikeNodes nodes nodes' a a') :
    AlikeNodes [.block header nodes] [.block header nodes'] a a' := by
  refine ⟨by simp, by simp, ?_⟩
  intro depth
  simp only [renderAll_cons, renderAll_nil, Node.render, List.append_nil]
  rw [← List.singleton_append, ← List.singleton_append (l := renderAll _ _ nodes'),
    Text.joinLines_append (by simp) (renderAll_ne_nil h.left _ _),
    Text.joinLines_append (by simp) (renderAll_ne_nil h.right _ _),
    Text.joinLines_singleton]
  exact (alike_indented (.code hheader) hne hne depth).append
    ((h.alike (depth + 1)).code_append ['\n'] (by decide))

end

/-! ## Effects -/

theorem alikeNodes_expecting {page taken : List Char} {method : String} {body body' : List Node}
    {a a' : List (List Char)} (hpage : isPlain page = true)
    (hmethod : isPlain method.toList = true) (htaken : isPlain taken = true)
    (h : AlikeNodes body body' a a') :
    AlikeNodes (expecting page method taken body) (expecting page method taken body') a a' := by
  have hwith : isPlain "with ".toList = true := by decide
  have has : isPlain "() as ".toList = true := by decide
  have hinfo : isPlain "_info:".toList = true := by decide
  have hequals : isPlain " = ".toList = true := by decide
  have hvalue : isPlain "_info.value".toList = true := by decide
  have hdot : isCode '.' = true := by decide
  have hheader : isPlain ("with ".toList ++ page ++ '.' :: method.toList ++ "() as ".toList
      ++ taken ++ "_info:".toList) = true := by
    simp only [isPlain_append, isPlain_cons, hwith, hpage, hdot, hmethod, has, htaken, hinfo,
      Bool.and_self]
  have hlast : isPlain (taken ++ " = ".toList ++ taken ++ "_info.value".toList) = true := by
    simp only [isPlain_append, htaken, hequals, hvalue, Bool.and_self]
  have hne : taken ++ " = ".toList ++ taken ++ "_info.value".toList ≠ [] := by simp
  have hline : AlikeNodes [.line (taken ++ " = ".toList ++ taken ++ "_info.value".toList)]
      [.line (taken ++ " = ".toList ++ taken ++ "_info.value".toList)] [] [] :=
    .line (.code hlast) hne hne
  have h := (AlikeNodes.block hheader (by simp) h).append hline
  rw [List.append_nil, List.append_nil] at h
  exact h

theorem alikeNodes_dismissDialog {page : List Char} (hpage : isPlain page = true) :
    AlikeNodes [dismissDialog page] [dismissDialog page] ["dialog".toList] ["dialog".toList] := by
  have htext : ".once(\x22dialog\x22, lambda dialog: dialog.dismiss())".toList
      = ".once".toList ++ '(' :: Literal.quote "dialog".toList
        ++ ", lambda dialog: dialog.dismiss())".toList := by decide
  have honce : isPlain ".once".toList = true := by decide
  have hback : isPlain ", lambda dialog: dialog.dismiss())".toList = true := by decide
  have h := ((AlikeValue.quote "dialog".toList "dialog".toList).enclosed (c := '(') honce
    (by decide +kernel) _ hback).code_append page hpage
  rw [← htext] at h
  apply AlikeNodes.line h <;> simp

/-- The literal of the handler for dialogs, if there is one. -/
def dialogTexts (effects : Effects) : List (List Char) :=
  if effects.dialog.isSome then ["dialog".toList] else []

/-- Nodes inside the block for an event, if it has to be waited for. -/
theorem alikeNodes_awaited {page : List Char} (method : String) {body body' : List Node}
    {a a' : List (List Char)} {taken : Option (List Char)} (hpage : isPlain page = true)
    (hmethod : isPlain method.toList = true)
    (htaken : ∀ name ∈ taken, isPlain name = true) (h : AlikeNodes body body' a a') :
    AlikeNodes ((taken.map fun name => expecting page method name body).getD body)
      ((taken.map fun name => expecting page method name body').getD body') a a' := by
  cases taken with
  | none => exact h
  | some name => exact alikeNodes_expecting hpage hmethod (htaken name rfl) h

/-- The blocks for a new page and a download around a call, behind the handler for dialogs. -/
theorem withEffects_eq (page call : List Char) (effects : Effects) :
    withEffects page effects call =
      let body := ((effects.popup.map String.toList).map fun name =>
        expecting page "expect_popup" name [.line call]).getD [.line call]
      let body :=
        ((effects.download.map fun suffix => ("download" ++ suffix).toList).map fun name =>
          expecting page "expect_download" name body).getD body
      if effects.dialog.isSome then dismissDialog page :: body else body := by
  unfold withEffects
  cases effects.popup <;> cases effects.download <;> cases effects.dialog <;> rfl

/-- Effects with the same names leave calls alike. -/
theorem alikeNodes_withEffects {page call call' : List Char} {effects effects' : Effects}
    {a a' : List (List Char)} (hpage : isPlain page = true)
    (hpopup : ∀ name ∈ effects.popup, isPlain name.toList = true)
    (hdownload : ∀ name ∈ effects.download, isPlain name.toList = true)
    (hdialog : effects.dialog.isSome = effects'.dialog.isSome)
    (hsamePopup : effects.popup = effects'.popup)
    (hsameDownload : effects.download = effects'.download)
    (h : AlikeNodes [.line call] [.line call'] a a') :
    AlikeNodes (withEffects page effects call) (withEffects page effects' call')
      (dialogTexts effects ++ a) (dialogTexts effects' ++ a') := by
  have hpopup' : ∀ name ∈ effects.popup.map String.toList, isPlain name = true := by
    intro name hname
    obtain ⟨handle, hhandle, rfl⟩ := Option.map_eq_some_iff.mp hname
    exact hpopup handle hhandle
  have hdownload' : ∀ name ∈ effects.download.map fun suffix => ("download" ++ suffix).toList,
      isPlain name = true := by
    intro name hname
    obtain ⟨suffix, hsuffix, rfl⟩ := Option.map_eq_some_iff.mp hname
    have hword : isPlain "download".toList = true := by decide
    rw [String.toList_append, isPlain_append, hword, hdownload suffix hsuffix]
    rfl
  have hinner := alikeNodes_awaited "expect_popup" hpage (by decide) hpopup' h
  have houter := alikeNodes_awaited "expect_download" hpage (by decide)
    hdownload' hinner
  rw [withEffects_eq, withEffects_eq, dialogTexts, dialogTexts, ← hdialog, ← hsamePopup,
    ← hsameDownload]
  dsimp only
  split
  · exact (alikeNodes_dismissDialog hpage).append houter
  · exact houter

/-! ## Entries -/

/-- An entry without its recorded texts. -/
structure Shape where
  pageAlias : String
  addressing : Option Addressing
  dialog : Bool
  popup : Option String
  download : Option String
  operation : OperationShape
  deriving DecidableEq, Repr

def effectsOf (e : Entry) : Effects := .ofSignals e.action.signals

def targetOf? (e : Entry) : Option Target := target? e.frame (isNavigation e.action.operation)

def shapeOf (e : Entry) : Shape where
  pageAlias := e.frame.pageAlias
  addressing := (targetOf? e).map Target.addressing
  dialog := (effectsOf e).dialog.isSome
  popup := (effectsOf e).popup
  download := (effectsOf e).download
  operation := operationShape e.action.operation

/-- The names that are written as code hold no mark of a literal or a comment, as no name of
the language does. -/
def HasPlainNames (e : Entry) : Prop :=
  ∀ name ∈ e.frame.pageAlias :: ((effectsOf e).popup.toList ++ (effectsOf e).download.toList),
    isPlain name.toList = true

/-- The recorded texts of an entry in the order in which they are written. -/
def recordedTexts (e : Entry) : List (List Char) :=
  match e.action.operation with
  | .openPage url => operationTexts (.openPage url)
  | operation => ((targetOf? e).map Target.texts).getD [] ++ operationTexts operation

/-- The literal that stands before the recorded texts. -/
def leadingTexts (e : Entry) : List (List Char) :=
  match e.action.operation with
  | .openPage _ => []
  | _ => dialogTexts (effectsOf e)

theorem nodes_eq_ok {adapter : Adapter} {e : Entry} {ns : List Node}
    (h : nodes .selector adapter e = .ok ns) :
    (∃ url, e.action.operation = .openPage url ∧
        ns = openPageNodes e.frame.pageAlias.toList url) ∨
      ((∀ url, e.action.operation ≠ .openPage url) ∧ ∃ target call,
        targetOf? e = some target ∧ callOf e.action.operation = .ok call ∧
        ns = withEffects e.frame.pageAlias.toList (effectsOf e)
          (target.write e.frame.pageAlias.toList ++ '.' :: call.text)) := by
  by_cases hopen : ∃ url, e.action.operation = .openPage url
  · obtain ⟨url, hurl⟩ := hopen
    rw [nodes_openPage hurl] at h
    cases h
    exact Or.inl ⟨url, hurl, rfl⟩
  · have hnot : ∀ url, e.action.operation ≠ .openPage url := not_exists.mp hopen
    rw [nodes_of_call hnot] at h
    obtain ⟨s, hs, h⟩ := Result.bind_eq_ok.mp h
    obtain ⟨text, htext, h⟩ := Result.bind_eq_ok.mp h
    obtain ⟨call, hcall, htext⟩ := Result.bind_eq_ok.mp htext
    rw [Call.write_selector] at htext
    obtain ⟨target, htarget, rfl⟩ := subject_eq_ok hs
    cases htext
    cases h
    exact Or.inr ⟨hnot, target, call, htarget, hcall, rfl⟩

theorem exists_of_operationShape_openPage {o : Operation} {blank : Bool}
    (h : operationShape o = .openPage blank) : ∃ url, o = .openPage url := by
  cases o with
  | openPage url => exact ⟨url, rfl⟩
  | _ => cases h

/-- A page that is opened has its address as the only literal, if it is not blank. -/
theorem alike_openPageNodes {page : List Char} {url url' : String}
    (hpage : isPlain page = true)
    (hblank : isBlankPage (Text.strip url.toList) = isBlankPage (Text.strip url'.toList)) :
    Alike (textOf bodyOffset (openPageNodes page url)) (textOf bodyOffset (openPageNodes page url'))
      (operationTexts (.openPage url)) (operationTexts (.openPage url')) := by
  simp only [openPageNodes, operationTexts, ← hblank]
  split
  · exact .nil
  · have hgoto : ".goto(".toList = ".goto".toList ++ ['('] := by decide
    have hcode : isPlain ".goto".toList = true := by decide
    have hfront : isPlain (page ++ ".goto".toList) = true := by
      rw [isPlain_append, hpage, hcode]
      rfl
    have h :=
      (AlikeValue.quote (Text.strip url.toList) (Text.strip url'.toList)).between hfront
    rw [hgoto]
    generalize ".goto".toList = goto at h ⊢
    apply (AlikeNodes.line _ (by simp) (by simp)).alike 0
    simpa using h

theorem leadingTexts_of_call {e : Entry} (h : ∀ url, e.action.operation ≠ .openPage url) :
    leadingTexts e = dialogTexts (effectsOf e) := by
  unfold leadingTexts
  split
  · next url hurl => exact absurd hurl (h url)
  · rfl

theorem recordedTexts_of_call {e : Entry} {target : Target}
    (h : ∀ url, e.action.operation ≠ .openPage url) (htarget : targetOf? e = some target) :
    recordedTexts e = target.texts ++ operationTexts e.action.operation := by
  unfold recordedTexts
  split
  · next url hurl => exact absurd hurl (h url)
  · rw [htarget]
    rfl

/-- Fragments of entries of one shape are alike, with the texts of their entries. -/
theorem alike_fragment {adapter adapter' : Adapter} {e e' : Entry} {s s' : List Char}
    (hshape : shapeOf e = shapeOf e') (hnames : HasPlainNames e)
    (h : fragment .selector adapter e = .ok s) (h' : fragment .selector adapter' e' = .ok s') :
    Alike s s' (leadingTexts e ++ recordedTexts e ++ fixedTexts e.action.operation)
      (leadingTexts e' ++ recordedTexts e' ++ fixedTexts e'.action.operation) := by
  obtain ⟨ns, hns, rfl⟩ := Result.map_eq_ok.mp h
  obtain ⟨ns', hns', rfl⟩ := Result.map_eq_ok.mp h'
  simp only [shapeOf, Shape.mk.injEq] at hshape
  obtain ⟨hpage, haddressing, hdialog, hpopup, hdownload, hoperation⟩ := hshape
  have hcode : isPlain e.frame.pageAlias.toList = true := hnames _ (by simp)
  obtain ⟨url, hurl, rfl⟩ | ⟨hnot, target, call, htarget, hcall, rfl⟩ := nodes_eq_ok hns
  · -- the other entry opens a page as well
    have hblank := hurl ▸ hoperation
    obtain ⟨url', hurl'⟩ := exists_of_operationShape_openPage hblank.symm
    obtain ⟨url'', hurl'', rfl⟩ | ⟨hnot', -⟩ := nodes_eq_ok hns'
    case inr => exact absurd hurl' (hnot' url')
    rw [hurl''] at hblank
    have h := alike_openPageNodes hcode (OperationShape.openPage.inj hblank)
    simpa [leadingTexts, recordedTexts, hurl, hurl'', fixedTexts, hpage] using h
  · obtain ⟨url', hurl', rfl⟩ | ⟨hnot', target', call', htarget', hcall', rfl⟩ := nodes_eq_ok hns'
    case inl =>
      obtain ⟨url, hurl⟩ := exists_of_operationShape_openPage (hurl' ▸ hoperation)
      exact absurd hurl (hnot url)
    rw [leadingTexts_of_call hnot, leadingTexts_of_call hnot', recordedTexts_of_call hnot htarget,
      recordedTexts_of_call hnot' htarget', ← hpage]
    have hsubject : Alike (target.write e.frame.pageAlias.toList)
        (target'.write e.frame.pageAlias.toList) target.texts target'.texts := by
      apply Target.alike hcode
      simpa [htarget, htarget'] using haddressing
    have hline := hsubject.append ((alike_callOf hoperation hcall hcall').code_append
      ['.'] (by decide))
    have h := alikeNodes_withEffects hcode
      (fun name hname => hnames name (by simp [Option.mem_def.mp hname]))
      (fun name hname => hnames name (by simp [Option.mem_def.mp hname]))
      hdialog hpopup hdownload (.line hline (by simp) (by simp))
    simpa [textOf] using h.alike 0

/-- A fragment is read as code and literals. The literals are the recorded texts in their order,
with those between them and the ends that the shape fixes. The code is the same for every entry
of this shape, whatever its texts are. -/
theorem tokens?_fragment {adapter : Adapter} {e : Entry} {s : List Char}
    (hnames : HasPlainNames e) (h : fragment .selector adapter e = .ok s) :
    ∃ tokens, tokens? s = some tokens ∧
      textsOf tokens = leadingTexts e ++ recordedTexts e ++ fixedTexts e.action.operation ∧
      ∀ (adapter' : Adapter) (e' : Entry) (s' : List Char), shapeOf e' = shapeOf e →
        fragment .selector adapter' e' = .ok s' →
        ∃ tokens', tokens? s' = some tokens' ∧ masked tokens' = masked tokens := by
  obtain ⟨tokens, _, _, hlexes, -, -, htexts, -⟩ := alike_fragment rfl hnames h h false
  refine ⟨tokens, hlexes.tokensFrom_eq, htexts, ?_⟩
  intro adapter' e' s' hshape h'
  obtain ⟨first, tokens', _, hfirst, hlexes', hmask, -⟩ :=
    alike_fragment hshape.symm hnames h h' false
  have hsame : first = tokens :=
    Option.some.inj (hfirst.tokensFrom_eq.symm.trans hlexes.tokensFrom_eq)
  exact ⟨tokens', hlexes'.tokensFrom_eq, by rw [← hmask, hsame]⟩

/-- A text that is filled in inside a frame, while a dialog and a new page open. -/
def filling (chain selector text : String) : Entry :=
  ⟨⟨"page", false, [chain], none, none⟩, ⟨.fill selector text, [.dialog "d", .popup "page1"]⟩⟩

/-- Quotation marks, braces and line feeds in the texts leave the code as it is. -/
theorem tokens?_fragment_filling :
    HasPlainNames (filling "#a" "#b" "x\"\n") ∧
    ∃ s s' tokens tokens', fragment .selector .ok (filling "#a" "#b" "x\"\n") = .ok s ∧
      fragment .selector .ok (filling "\\" "\"" "\x7d") = .ok s' ∧ tokens? s = some tokens ∧
      textsOf tokens = ["dialog".toList, "#a".toList, "#b".toList, "x\"\n".toList] ∧
      tokens? s' = some tokens' ∧ masked tokens' = masked tokens := by
  have hnames : HasPlainNames (filling "#a" "#b" "x\"\n") := by
    unfold HasPlainNames
    decide
  have hok : (fragment .selector .ok (filling "#a" "#b" "x\"\n")).toOption.isSome = true
      ∧ (fragment .selector .ok (filling "\\" "\"" "\x7d")).toOption.isSome = true := by
    decide
  cases hs : fragment .selector .ok (filling "#a" "#b" "x\"\n") with
  | error fault => rw [hs] at hok; cases hok.1
  | ok s =>
    cases hs' : fragment .selector .ok (filling "\\" "\"" "\x7d") with
    | error fault => rw [hs'] at hok; cases hok.2
    | ok s' =>
      obtain ⟨tokens, htokens, htexts, hsame⟩ := tokens?_fragment hnames hs
      obtain ⟨tokens', htokens', hmask⟩ := hsame .ok _ s' (by decide) hs'
      exact ⟨hnames, s, s', tokens, tokens', rfl, rfl, htokens, htexts, htokens', hmask⟩

end Retrace.Script
