import Retrace.Proofs.Locator.OneLine
import Retrace.Proofs.Script.Integrity
import Retrace.Script.Assemble

/-!
# The lines of a script

Between its header and its footer a script has one line for the call of each
entry, two more for each event that is waited for, and one for the handler of
dialogs. Each of these lines stands in the body of the function, whatever the
recorded texts are: an entry is written on as many lines as its kind and its
signals demand, and a whole recording on as many as its entries together.
-/

namespace Retrace.Script

open Literal Outline Recording Text

/-! ## Nodes -/

/-- The spaces in front of every line of a fragment. -/
def bodySpaces : List Char := List.replicate 4 ' '

/-- A line in the body of the function. -/
structure IsBodyLine (l : List Char) : Prop where
  one : isOneLine l = true
  behind : bodySpaces <+: l
  visible : isVisible l = true

theorem IsBodyLine.ne_nil {l : List Char} (h : IsBodyLine l) : l ≠ [] :=
  ne_nil_of_isVisible h.visible

theorem isOneLine_spaces (n : Nat) : isOneLine (List.replicate n ' ') = true := by
  rw [isOneLine_iff]
  intro c hc
  rw [List.eq_of_mem_replicate hc]
  decide

theorem isBodyLine_indented {s : List Char} (hone : isOneLine s = true)
    (hvisible : isVisible s = true) (depth : Int) : IsBodyLine (indented bodySpaces depth s) := by
  rw [indented_of_ne_nil (ne_nil_of_isVisible hvisible)]
  constructor
  case one =>
    rw [isOneLine_append, isOneLine_append, hone, bodySpaces, indentation, isOneLine_spaces,
      isOneLine_spaces]
    rfl
  case behind =>
    rw [List.append_assoc]
    exact List.prefix_append _ _
  case visible => rw [isVisible_append, hvisible, Bool.or_true]

/-- Nodes that are rendered on a number of lines of the body, at every depth. -/
def HasLines (nodes : List Node) (count : Nat) : Prop :=
  ∀ depth, (renderAll bodySpaces depth nodes).length = count
    ∧ ∀ l ∈ renderAll bodySpaces depth nodes, IsBodyLine l

theorem HasLines.nil : HasLines [] 0 := by
  intro depth
  rw [renderAll_nil]
  exact ⟨rfl, fun _ h => absurd h List.not_mem_nil⟩

theorem HasLines.line {s : List Char} (hone : isOneLine s = true) (hvisible : isVisible s = true) :
    HasLines [.line s] 1 := by
  intro depth
  rw [renderAll_cons, renderAll_nil, Node.render]
  refine ⟨rfl, ?_⟩
  intro l hl
  obtain rfl : l = indented bodySpaces depth s := by simpa using hl
  exact isBodyLine_indented hone hvisible depth

theorem HasLines.append {nodes more : List Node} {m n : Nat} (h : HasLines nodes m)
    (hmore : HasLines more n) : HasLines (nodes ++ more) (m + n) := by
  intro depth
  obtain ⟨hlength, hlines⟩ := h depth
  obtain ⟨hlengthMore, hlinesMore⟩ := hmore depth
  rw [renderAll_append, List.length_append, hlength, hlengthMore]
  refine ⟨rfl, ?_⟩
  intro l hl
  obtain hl | hl := List.mem_append.mp hl
  · exact hlines l hl
  · exact hlinesMore l hl

theorem HasLines.block {header : List Char} {nodes : List Node} {n : Nat}
    (hone : isOneLine header = true) (hvisible : isVisible header = true) (h : HasLines nodes n) :
    HasLines [.block header nodes] (1 + n) := by
  intro depth
  obtain ⟨hlength, hlines⟩ := h (depth + 1)
  rw [renderAll_cons, renderAll_nil, Node.render, List.append_nil, List.length_cons, hlength]
  refine ⟨Nat.add_comm n 1, ?_⟩
  intro l hl
  obtain rfl | hl := List.mem_cons.mp hl
  · exact isBodyLine_indented hone hvisible depth
  · exact hlines l hl

/-! ## Effects -/

theorem hasLines_expecting {page taken : List Char} {method : String} {body : List Node} {n : Nat}
    (hpage : isOneLine page = true) (hmethod : isOneLine method.toList = true)
    (htaken : isOneLine taken = true) (h : HasLines body n) :
    HasLines (expecting page method taken body) (n + 2) := by
  have hwith : isOneLine "with ".toList = true ∧ isVisible "with ".toList = true := by
    decide
  have has : isOneLine "() as ".toList = true := by decide
  have hinfo : isOneLine "_info:".toList = true := by decide
  have hequals : isOneLine " = ".toList = true ∧ isVisible " = ".toList = true := by
    decide
  have hvalue : isOneLine "_info.value".toList = true := by decide
  have hheader : HasLines [.block ("with ".toList ++ page ++ '.' :: method.toList
      ++ "() as ".toList ++ taken ++ "_info:".toList) body] (1 + n) := by
    apply HasLines.block _ _ h
    · simp only [isOneLine_append, isOneLine_cons, hwith.1, hpage, hmethod, has, htaken, hinfo]
      decide
    · simp only [isVisible_append, hwith.2, Bool.true_or]
  have hlast : HasLines [.line (taken ++ " = ".toList ++ taken ++ "_info.value".toList)] 1 := by
    apply HasLines.line
    · simp only [isOneLine_append, htaken, hequals.1, hvalue]
      decide
    · simp only [isVisible_append, hequals.2, Bool.or_true, Bool.true_or]
  have h := hheader.append hlast
  rwa [Nat.add_comm 1 n, Nat.add_assoc] at h

theorem hasLines_dismissDialog {page : List Char} (hpage : isOneLine page = true) :
    HasLines [dismissDialog page] 1 := by
  have hhandler : isOneLine ".once(\x22dialog\x22, lambda dialog: dialog.dismiss())".toList = true
      ∧ isVisible ".once(\x22dialog\x22, lambda dialog: dialog.dismiss())".toList = true := by
    decide
  apply HasLines.line
  · rw [isOneLine_append, hpage, hhandler.1]
    rfl
  · rw [isVisible_append, hhandler.2, Bool.or_true]

/-- One line for the call, two for each block around it, and one for the handler of dialogs. -/
def effectLines (effects : Effects) : Nat :=
  1 + 2 * effects.popup.isSome.toNat + 2 * effects.download.isSome.toNat
    + effects.dialog.isSome.toNat

theorem hasLines_awaited {page : List Char} (method : String) {body : List Node} {n : Nat}
    {taken : Option (List Char)} (hpage : isOneLine page = true)
    (hmethod : isOneLine method.toList = true) (htaken : ∀ name ∈ taken, isOneLine name = true)
    (h : HasLines body n) :
    HasLines ((taken.map fun name => expecting page method name body).getD body)
      (n + 2 * taken.isSome.toNat) := by
  cases taken with
  | none => exact h
  | some name => exact hasLines_expecting hpage hmethod (htaken name rfl) h

theorem hasLines_withEffects {page call : List Char} {effects : Effects}
    (hpage : isOneLine page = true) (hpopup : ∀ name ∈ effects.popup, isOneLine name.toList = true)
    (hdownload : ∀ name ∈ effects.download, isOneLine name.toList = true)
    (h : HasLines [.line call] 1) :
    HasLines (withEffects page effects call) (effectLines effects) := by
  have hpopup' : ∀ name ∈ effects.popup.map String.toList, isOneLine name = true := by
    intro name hname
    obtain ⟨handle, hhandle, rfl⟩ := Option.map_eq_some_iff.mp hname
    exact hpopup handle hhandle
  have hdownload' : ∀ name ∈ effects.download.map fun suffix => ("download" ++ suffix).toList,
      isOneLine name = true := by
    intro name hname
    obtain ⟨suffix, hsuffix, rfl⟩ := Option.map_eq_some_iff.mp hname
    have hword : isOneLine "download".toList = true := by decide
    rw [String.toList_append, isOneLine_append, hword, hdownload suffix hsuffix]
    rfl
  have hinner := hasLines_awaited "expect_popup" hpage (by decide) hpopup' h
  have houter := hasLines_awaited "expect_download" hpage (by decide) hdownload'
    hinner
  rw [Option.isSome_map, Option.isSome_map] at houter
  rw [withEffects_eq, effectLines]
  dsimp only
  split
  · next hdialog =>
    have hall := (hasLines_dismissDialog hpage).append houter
    rwa [hdialog, Bool.toNat_true, Nat.add_comm _ 1]
  · next hdialog =>
    rw [Bool.not_eq_true] at hdialog
    rw [hdialog]
    exact houter

/-! ## Calls -/

theorem isOneLine_frameLocator (selector : String) : isOneLine (frameLocator selector) = true := by
  have hmethod : isOneLine ".frame_locator(".toList = true := by decide
  unfold frameLocator
  rw [isOneLine_append, isOneLine_append, hmethod, isOneLine_quote]
  rfl

theorem isOneLine_frameBy {page : List Char} {keyword : String} (hpage : isOneLine page = true)
    (hkeyword : isOneLine keyword.toList = true) (value : String) :
    isOneLine (frameBy page keyword value) = true := by
  have hmethod : isOneLine ".frame(".toList = true := by decide
  simp only [frameBy, isOneLine_append, isOneLine_cons, hpage, hmethod, hkeyword, isOneLine_quote]
  decide

theorem isOneLine_subject {f : Frame} {navigation : Bool} {s : List Char}
    (hpage : isOneLine f.pageAlias.toList = true) (h : subject f navigation = .ok s) :
    isOneLine s = true := by
  obtain ⟨target, -, rfl⟩ := subject_eq_ok h
  cases target with
  | page => exact hpage
  | chain selectors =>
    have hchain : isOneLine (selectors.flatMap frameLocator) = true :=
      isOneLine_flatMap fun selector _ => isOneLine_frameLocator selector
    rw [Target.write, isOneLine_append, hpage, hchain]
    rfl
  | name value => exact isOneLine_frameBy hpage (by decide) value
  | url value => exact isOneLine_frameBy hpage (by decide) value

/-- The selector of an operation on an element. -/
def selectorOf? : Operation → Option String
  | .openPage _ => none
  | .closePage => none
  | .click c => some c.selector
  | .check selector => some selector
  | .uncheck selector => some selector
  | .fill selector _ => some selector
  | .setInputFiles selector _ => some selector
  | .press selector _ _ => some selector
  | .navigate _ => none
  | .select selector _ => some selector

/-- A call of an operation: its selector is that of the operation, and what is written
around the selector is on one line. -/
structure IsCallOf (o : Operation) (c : Call) : Prop where
  selector : c.selector = (selectorOf? o).map String.toList
  method : isOneLine c.method = true
  arguments : isOneLine c.arguments = true

theorem isOneLine_clickOptions {c : Click} {s : List Char}
    (h : writeOptions (clickOptions c) = .ok s) : isOneLine s = true := by
  have hnames : ∀ name ∈ ["button", "modifiers", "clickCount", "position"],
      isOneLine (Naming.snakeCase name.toList) = true := by
    decide
  have hsubset :
      (clickOptions c).map Prod.fst ⊆ ["button", "modifiers", "clickCount", "position"] := by
    have hgiven : clickOptions c
        = buttonOptions c ++ modifierOptions c ++ countOptions c ++ positionOptions c := rfl
    rw [hgiven]
    simp only [List.map_append]
    exact ((((optional_button c).names.append (optional_modifiers c).names).append
      (optional_count c).names).append (optional_position c).names).subset
  apply isOneLine_writeOptions _ (Result.mapError_eq_ok.mp h)
  intro o ho
  exact hnames o.1 (hsubset (List.mem_map_of_mem ho))

theorem isOneLine_literal {d : Datum} {s : List Char} (h : literal d = .ok s) :
    isOneLine s = true :=
  isOneLine_ofDatum (Result.mapError_eq_ok.mp h)

theorem isCallOf_onElement {o : Operation} {selector method : String} {arguments : List Char}
    (hselector : selectorOf? o = some selector) (hmethod : isOneLine method.toList = true)
    (harguments : isOneLine arguments = true) :
    IsCallOf o (onElement selector method arguments) := by
  constructor
  case selector =>
    rw [hselector]
    rfl
  case method => exact hmethod
  case arguments => exact harguments

theorem isCallOf_callOf {o : Operation} {c : Call} (h : callOf o = .ok c) : IsCallOf o c := by
  cases o with
  | openPage url => cases h
  | closePage =>
    cases h
    have hmethod : isOneLine "close".toList = true := by decide
    exact ⟨rfl, hmethod, rfl⟩
  | click c =>
    obtain ⟨s, hs, h⟩ := Result.bind_eq_ok.mp h
    cases h
    have hmethod : isOneLine (clickMethod c.clickCount).toList = true := by
      unfold clickMethod
      split <;> decide
    exact isCallOf_onElement rfl hmethod (isOneLine_clickOptions hs)
  | check selector =>
    cases h
    exact isCallOf_onElement rfl (by decide) rfl
  | uncheck selector =>
    cases h
    exact isCallOf_onElement rfl (by decide) rfl
  | fill selector text =>
    cases h
    exact isCallOf_onElement rfl (by decide) (isOneLine_quote _)
  | setInputFiles selector files =>
    obtain ⟨s, hs, h⟩ := Result.bind_eq_ok.mp h
    cases h
    exact isCallOf_onElement rfl (by decide) (isOneLine_literal hs)
  | press selector key modifiers =>
    cases h
    exact isCallOf_onElement rfl (by decide) (isOneLine_quote _)
  | navigate url =>
    cases h
    have hmethod : isOneLine "goto".toList = true := by decide
    exact ⟨rfl, hmethod, isOneLine_quote _⟩
  | select selector options =>
    obtain ⟨s, hs, h⟩ := Result.bind_eq_ok.mp h
    cases h
    exact isCallOf_onElement rfl (by decide) (isOneLine_literal hs)

/-- A call written around a selector that is given as an argument or as a locator. -/
theorem isOneLine_call {front method arguments : List Char} (hfront : isOneLine front = true)
    (hmethod : isOneLine method = true) (harguments : isOneLine arguments = true) :
    isOneLine (front ++ method ++ '(' :: arguments ++ [')']) = true := by
  simp [hfront, hmethod, harguments, isBreak]

theorem isOneLine_withSelector {selector arguments : List Char} (h : isOneLine arguments = true) :
    isOneLine (withSelector selector arguments) = true := by
  unfold withSelector
  split
  · simp [isOneLine_quote]
  · simp [isOneLine_quote, h, isBreak]

theorem isOneLine_writeOperation [Text.View] {style : Style} {o : Operation} {s : List Char}
    (hselector : style = .locator → ∀ selector ∈ selectorOf? o, isOneLine selector.toList = true)
    (h : writeOperation style Locator.ofSelector o = .ok s) : isOneLine s = true := by
  obtain ⟨c, hc, h⟩ := Result.bind_eq_ok.mp h
  obtain ⟨hcall, hmethod, harguments⟩ := isCallOf_callOf hc
  unfold Call.write at h
  split at h
  · cases h
    exact isOneLine_call isOneLine_nil hmethod harguments
  · cases h
    exact isOneLine_call isOneLine_nil hmethod (isOneLine_withSelector harguments)
  · next selector hsome _ =>
    obtain ⟨locator, hlocator, h⟩ := Result.bind_eq_ok.mp h
    cases h
    rw [hcall] at hsome
    obtain ⟨text, htext, rfl⟩ := Option.map_eq_some_iff.mp hsome
    have hone : isOneLine locator = true :=
      Locator.isOneLine_ofSelector (hselector rfl text htext) (Result.mapError_eq_ok.mp hlocator)
    simp [hone, hmethod, harguments, isBreak]

/-! ## Entries -/

/-- Nothing that is written as it stands has a line break: the names of pages and of
downloads, and a selector that is converted. -/
structure HasOneLineNames (style : Style) (e : Entry) : Prop where
  page : isOneLine e.frame.pageAlias.toList = true
  popup : ∀ name ∈ (effectsOf e).popup, isOneLine name.toList = true
  download : ∀ name ∈ (effectsOf e).download, isOneLine name.toList = true
  selector : style = .locator →
    ∀ selector ∈ selectorOf? e.action.operation, isOneLine selector.toList = true

/-- Whether an entry has a signal of a kind. -/
def sets (kind : Signal → Option String) (e : Entry) : Bool :=
  e.action.signals.any fun signal => (kind signal).isSome

/-- How many lines an entry has: none for a page that is opened blank, one for another
page, and else one for the call, two for each event to wait for, and one for a dialog. -/
def lineCount (e : Entry) : Nat :=
  match e.action.operation with
  | .openPage url => if isBlankPage (strip url.toList) then 0 else 1
  | _ =>
    1 + 2 * (sets Signal.popup? e).toNat + 2 * (sets Signal.download? e).toNat
      + (sets Signal.dialog? e).toNat

theorem lineCount_openPage {e : Entry} {url : String} (h : e.action.operation = .openPage url) :
    lineCount e = if isBlankPage (strip url.toList) then 0 else 1 := by
  simp [lineCount, h]

theorem lineCount_of_call {e : Entry} (h : ∀ url, e.action.operation ≠ .openPage url) :
    lineCount e = effectLines (effectsOf e) := by
  have hfirst (kind : Signal → Option String) :
      sets kind e = (e.action.signals.findSome? kind).isSome :=
    List.isSome_findSome?.symm
  unfold lineCount
  split
  · next url hurl => exact absurd hurl (h url)
  · rw [hfirst, hfirst, hfirst]
    rfl

theorem hasLines_openPageNodes {page : List Char} (hpage : isOneLine page = true) (url : String) :
    HasLines (openPageNodes page url) (if isBlankPage (strip url.toList) then 0 else 1) := by
  have hgoto : isOneLine ".goto(".toList = true ∧ isVisible ".goto(".toList = true := by
    decide
  unfold openPageNodes
  dsimp only
  split
  · exact .nil
  · apply HasLines.line
    · rw [isOneLine_append, isOneLine_append, isOneLine_append, hpage, hgoto.1, isOneLine_quote]
      rfl
    · simp only [isVisible_append, hgoto.2, Bool.or_true, Bool.true_or]

theorem hasLines_nodes [Text.View] {style : Style} {e : Entry} {ns : List Node}
    (hnames : HasOneLineNames style e) (h : nodes style Locator.ofSelector e = .ok ns) :
    HasLines ns (lineCount e) := by
  by_cases hopen : ∃ url, e.action.operation = .openPage url
  · obtain ⟨url, hurl⟩ := hopen
    rw [nodes_openPage hurl] at h
    cases h
    rw [lineCount_openPage hurl]
    exact hasLines_openPageNodes hnames.page url
  · have hnot : ∀ url, e.action.operation ≠ .openPage url := not_exists.mp hopen
    rw [nodes_of_call hnot] at h
    obtain ⟨s, hs, h⟩ := Result.bind_eq_ok.mp h
    obtain ⟨call, hcall, h⟩ := Result.bind_eq_ok.mp h
    cases h
    have hsubject : isOneLine s = true := isOneLine_subject hnames.page hs
    have hwritten : isOneLine call = true := isOneLine_writeOperation hnames.selector hcall
    rw [lineCount_of_call hnot]
    apply hasLines_withEffects hnames.page hnames.popup hnames.download
    apply HasLines.line
    · simp [hsubject, hwritten, isBreak]
    · have hdot : isVisible ('.' :: call) = true := by
        rw [← List.singleton_append, isVisible_append]
        have hpoint : isVisible ['.'] = true := by decide
        rw [hpoint]
        rfl
      rw [isVisible_append, hdot, Bool.or_true]

/-- A fragment that is made of lines of the body. -/
def IsFragment (e : Entry) (s : List Char) : Prop :=
  ∃ lines, s = joinLines lines ∧ lines.length = lineCount e ∧ ∀ l ∈ lines, IsBodyLine l

theorem isFragment_fragment [Text.View] {style : Style} {e : Entry} {s : List Char}
    (hnames : HasOneLineNames style e) (h : fragment style Locator.ofSelector e = .ok s) :
    IsFragment e s := by
  obtain ⟨ns, hns, rfl⟩ := Result.map_eq_ok.mp h
  obtain ⟨hlength, hlines⟩ := hasLines_nodes hnames hns 0
  exact ⟨renderAll bodySpaces 0 ns, rfl, hlength, hlines⟩

/-! ## Recordings -/

/-- One entry after the other, the fragments are made of lines of the body. -/
theorem isFragment_fragmentsFrom {write : Entry → Except Fault (List Char)} {recording : List Entry}
    {index : Nat} {fragments : List (List Char)}
    (hwrite : ∀ e ∈ recording, ∀ s, write e = .ok s → IsFragment e s)
    (h : fragmentsFrom write index recording = .ok fragments) :
    List.Forall₂ IsFragment recording fragments := by
  induction recording generalizing index fragments with
  | nil =>
    cases h
    exact .nil
  | cons e rest ih =>
    obtain ⟨hfirst, hrest⟩ := List.forall_mem_cons.mp hwrite
    obtain ⟨first, he, h⟩ := Result.bind_eq_ok.mp h
    obtain ⟨others, hothers, h⟩ := Result.bind_eq_ok.mp h
    cases h
    exact .cons (hfirst first (Result.mapError_eq_ok.mp he)) (ih hrest hothers)

/-- Fragments that are empty aside, the joined fragments are the joined lines of all of them. -/
theorem exists_lines_of_fragments {recording : List Entry} {fragments : List (List Char)}
    (h : List.Forall₂ IsFragment recording fragments) :
    ∃ lines, joinLines (fragments.filter (· != [])) = joinLines lines
      ∧ (fragments.filter (· != []) = [] ↔ lines = [])
      ∧ lines.length = (recording.map lineCount).sum ∧ ∀ l ∈ lines, IsBodyLine l := by
  induction h with
  | nil => exact ⟨[], rfl, by simp, rfl, by simp⟩
  | @cons e s recording fragments hs _ ih =>
    obtain ⟨first, rfl, hcount, hfirst⟩ := hs
    obtain ⟨others, hjoin, hnil, hcounts, hothers⟩ := ih
    have hlength : (first ++ others).length = ((e :: recording).map lineCount).sum := by
      rw [List.length_append, hcount, hcounts, List.map_cons, List.sum_cons]
    have hlines : ∀ l ∈ first ++ others, IsBodyLine l := by
      intro l hl
      obtain hl | hl := List.mem_append.mp hl
      · exact hfirst l hl
      · exact hothers l hl
    by_cases hempty : first = []
    · -- a fragment without lines is empty and left out
      subst hempty
      exact ⟨others, hjoin, hnil, hlength, hlines⟩
    · have hne : joinLines first ≠ [] :=
        joinLines_ne_nil hempty fun l hl => (hfirst l hl).ne_nil
      have hkept : (joinLines first :: fragments).filter (· != [])
          = joinLines first :: fragments.filter (· != []) :=
        List.filter_cons_of_pos (by simpa using hne)
      refine ⟨first ++ others, ?_, by simp [hkept, hempty], hlength, hlines⟩
      rw [hkept]
      -- only between lines does a line feed stand
      by_cases hothersEmpty : others = []
      · rw [hnil.mpr hothersEmpty, hothersEmpty, joinLines_singleton, List.append_nil]
      · rw [← List.singleton_append, joinLines_append (by simp) (hnil.not.mpr hothersEmpty),
          joinLines_append hempty hothersEmpty, hjoin, joinLines_singleton]

/-- A script without its header and its footer. -/
theorem join_eq (header : List Char) (fragments : List (List Char)) (footer : List Char) :
    join header fragments footer
      = header ++ '\n' :: (if fragments.filter (· != []) = [] then []
          else joinLines (fragments.filter (· != [])) ++ ['\n']) ++ footer := by
  unfold join
  generalize fragments.filter (· != []) = given
  by_cases hgiven : given = []
  · rw [hgiven, if_pos rfl]
    simp [joinLines_cons_cons]
  · rw [if_neg hgiven, List.cons_append, ← List.singleton_append, ← List.append_assoc,
      joinLines_append (by simp) (by simp), joinLines_append (by simp) hgiven]
    simp

/-- Between the header and the footer, each physical line stands in the body of the function,
and there are as many as the entries demand, whatever their texts are. -/
theorem script_lines [Text.View] {language : Language} {style : Style} {recording : List Entry}
    {options : Options} {saveStorage : Option String} {s : List Char}
    (hnames : ∀ e ∈ recording, HasOneLineNames style e)
    (h : (Generator.mk language style Locator.ofSelector).script recording options saveStorage
      = .ok s) :
    ∃ head body, header language options = .ok head
      ∧ s = head ++ '\n' :: (if body = [] then [] else body ++ ['\n'])
          ++ footer language saveStorage
      ∧ (physicalLines body).length = (recording.map lineCount).sum
      ∧ ∀ l ∈ physicalLines body, bodySpaces <+: l ∧ isVisible l = true := by
  obtain ⟨head, hhead, h⟩ := Result.bind_eq_ok.mp h
  obtain ⟨fragments, hfragments, h⟩ := Result.bind_eq_ok.mp h
  cases h
  have hwritten : List.Forall₂ IsFragment recording fragments :=
    isFragment_fragmentsFrom (fun e he _ hs => isFragment_fragment (hnames e he) hs) hfragments
  obtain ⟨lines, hjoin, hnil, hcount, hlines⟩ := exists_lines_of_fragments hwritten
  have hphysical : physicalLines (joinLines lines) = lines :=
    physicalLines_joinLines (fun l hl => (hlines l hl).one) fun l hl => (hlines l hl).ne_nil
  refine ⟨head, joinLines lines, hhead, ?_, ?_, ?_⟩
  · have hbody : joinLines lines = [] ↔ lines = [] := by
      constructor
      · intro hempty
        rw [hempty] at hphysical
        exact hphysical.symm
      · rintro rfl
        rfl
    rw [join_eq, hjoin]
    simp only [hnil, hbody]
  · rw [hphysical, hcount]
  · rw [hphysical]
    intro l hl
    exact ⟨(hlines l hl).behind, (hlines l hl).visible⟩

/-- Line feeds in the text that is filled in do not begin lines. -/
theorem script_lines_filling :
    HasOneLineNames .locator (filling "#a" "#b" "x\"\n")
      ∧ ∃ s head body,
        (Generator.mk .python .locator Locator.ofSelector).script
          [filling "#a" "#b" "x\"\n"] {} none = .ok s
        ∧ header .python {} = .ok head
        ∧ s = head ++ '\n' :: (if body = [] then [] else body ++ ['\n']) ++ footer .python none
        ∧ (physicalLines body).length = 4
        ∧ ∀ l ∈ physicalLines body, bodySpaces <+: l ∧ isVisible l = true := by
  have hnames : HasOneLineNames .locator (filling "#a" "#b" "x\"\n") :=
    ⟨by decide, by decide, by decide, by decide⟩
  have hall : ∀ e ∈ [filling "#a" "#b" "x\"\n"], HasOneLineNames .locator e := by
    intro e he
    rw [List.mem_singleton.mp he]
    exact hnames
  have hok : ((Generator.mk .python .locator Locator.ofSelector).script
      [filling "#a" "#b" "x\"\n"] {} none).toOption.isSome = true := by
    decide +kernel
  cases hs : (Generator.mk .python .locator Locator.ofSelector).script
      [filling "#a" "#b" "x\"\n"] {} none with
  | error fault =>
    rw [hs] at hok
    cases hok
  | ok s =>
    obtain ⟨head, body, hhead, hscript, hcount, hlines⟩ := script_lines hall hs
    exact ⟨hnames, s, head, body, rfl, hhead, hscript, hcount, hlines⟩

end Retrace.Script
