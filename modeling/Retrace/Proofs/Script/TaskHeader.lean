import Retrace.Proofs.Literal.OneLine
import Retrace.Proofs.Literal.Options
import Retrace.Proofs.Literal.RoundTrip
import Retrace.Proofs.Outline.Markers
import Retrace.Script.Header

/-!
# The header of a task script

The options are put into a template, which is then read line by line and drawn up
anew with its indentation. This leaves the template as it is, whatever the texts
of the options are. An option takes one line, which ends in a comma, and so is
neither the beginning nor the end of a block and has no white space at its ends.
Hence the lines of the header are those of the template with a line for each
option between them, in the order of their names.
-/

namespace Retrace.Script

open Outline Text Literal

/-! ## The template as a tree -/

/-- The tree that the template stands for, with lines for the options. -/
def taskForest (options : List (List Char)) : List Node :=
  [line "import re",
    line "from robocorp.tasks import task",
    line "from robocorp import browser",
    line "",
    .block "def init_browser():".toList
      [line "# Configure may be used to set the basic robocorp.browser settings.",
        line "# It must be called prior to calling APIs which create playwright objects.",
        .block "browser.configure(".toList (options.map .line),
        line ")"],
    line "",
    line "@task",
    .block "def automate():".toList
      [line "init_browser()",
        line "# APIs in robocorp.browser return the same browser instance, which is",
        line "# automatically closed when the task finishes.",
        line "page = browser.page()",
        line "# --------------------- Generated Code:"]]

theorem markedAll_lines (lines : List (List Char)) : markedAll (lines.map .line) = lines := by
  induction lines with
  | nil => rfl
  | cons l lines ih =>
    rw [List.map_cons, markedAll, ih]
    rfl

/-- The template is the tree written with braces, of which the last one is left out. -/
theorem markedAll_taskForest (options : List (List Char)) :
    markedAll (taskForest options) = templateBefore.map String.toList ++ options
      ++ templateAfter.map String.toList ++ List.replicate 1 [blockClose] := by
  have hinit : openingLine "def init_browser():".toList = "def init_browser(): \x7b".toList := by
    decide +kernel
  have hconfigure : openingLine "browser.configure(".toList = "browser.configure( \x7b".toList := by
    decide +kernel
  have hautomate : openingLine "def automate():".toList = "def automate(): \x7b".toList := by
    decide +kernel
  have hclose : [blockClose] = "\x7d".toList := by decide
  simp only [taskForest, line, markedAll, Node.marked, markedAll_lines, hinit, hconfigure,
    hautomate, hclose, templateBefore, templateAfter, List.map_cons, List.map_nil, List.cons_append,
    List.nil_append, List.append_nil, List.append_assoc, List.replicate_one]

/-- A text that is read as a line, and as what it is. -/
def isLine (s : List Char) : Bool :=
  s.all (· != '\n') && strip s == s && s != [blockClose] && s.getLast? != some blockOpen

theorem isWritable_of_isLine {s : List Char} (h : isLine s = true) : (Node.line s).IsWritable := by
  simp only [isLine, Bool.and_eq_true, List.all_eq_true, bne_iff_ne, beq_iff_eq] at h
  obtain ⟨⟨⟨hfeed, htrimmed⟩, hclose⟩, hopen⟩ := h
  exact .line ⟨fun hmem => hfeed _ hmem rfl, htrimmed⟩ hclose hopen

theorem isWritable_taskForest {options : List (List Char)}
    (h : ∀ option ∈ options, (Node.line option).IsWritable) :
    ∀ node ∈ taskForest options, node.IsWritable := by
  have hline : ∀ s : String, isLine s.toList = true → (line s).IsWritable :=
    fun _ hs => isWritable_of_isLine hs
  have hblock : ∀ (s : String) (children : List Node), isLine s.toList = true →
      (∀ child ∈ children, child.IsWritable) → (Node.block s.toList children).IsWritable := by
    intro s children hs hchildren
    cases hline s hs with
    | line h => exact .block h hchildren
  have hoptions : ∀ node ∈ options.map Node.line, node.IsWritable := by
    intro node hnode
    obtain ⟨option, hoption, rfl⟩ := List.mem_map.mp hnode
    exact h option hoption
  simp only [taskForest, List.forall_mem_cons, List.not_mem_nil, false_implies, implies_true,
    and_true]
  refine ⟨hline _ (by decide +kernel), hline _ (by decide +kernel), hline _ (by decide +kernel),
    hline _ (by decide +kernel), hblock _ _ (by decide +kernel) ?_, hline _ (by decide +kernel),
    hline _ (by decide +kernel), hblock _ _ (by decide +kernel) ?_⟩
  · simp only [List.forall_mem_cons, List.not_mem_nil, false_implies, implies_true, and_true]
    exact ⟨hline _ (by decide +kernel), hline _ (by decide +kernel),
      hblock _ _ (by decide +kernel) hoptions, hline _ (by decide +kernel)⟩
  · simp only [List.forall_mem_cons, List.not_mem_nil, false_implies, implies_true, and_true]
    exact ⟨hline _ (by decide +kernel), hline _ (by decide +kernel), hline _ (by decide +kernel),
      hline _ (by decide +kernel), hline _ (by decide +kernel)⟩

/-! ## The lines of the header -/

/-- A text behind some spaces. -/
def spaced (n : Nat) (s : String) : List Char := List.replicate n ' ' ++ s.toList

def linesBefore : List (List Char) :=
  [spaced 0 "import re",
    spaced 0 "from robocorp.tasks import task",
    spaced 0 "from robocorp import browser",
    spaced 0 "",
    spaced 0 "def init_browser():",
    spaced 4 "# Configure may be used to set the basic robocorp.browser settings.",
    spaced 4 "# It must be called prior to calling APIs which create playwright objects.",
    spaced 4 "browser.configure("]

def linesAfter : List (List Char) :=
  [spaced 4 ")",
    spaced 0 "",
    spaced 0 "@task",
    spaced 0 "def automate():",
    spaced 4 "init_browser()",
    spaced 4 "# APIs in robocorp.browser return the same browser instance, which is",
    spaced 4 "# automatically closed when the task finishes.",
    spaced 4 "page = browser.page()",
    spaced 4 "# --------------------- Generated Code:"]

theorem renderAll_lines (depth : Int) {lines : List (List Char)} (h : ∀ l ∈ lines, l ≠ []) :
    renderAll [] depth (lines.map .line) = lines.map (indentation depth ++ ·) := by
  induction lines with
  | nil => rw [List.map_nil, renderAll_nil, List.map_nil]
  | cons l lines ih =>
    obtain ⟨hl, hlines⟩ := List.forall_mem_cons.mp h
    rw [List.map_cons, renderAll_cons, ih hlines, Node.render, indented_of_ne_nil hl]
    rfl

theorem indented_toList {s : String} (h : s ≠ "") (depth : Int) :
    indented [] depth s.toList = spaced (4 * depth.toNat) s := by
  rw [indented_of_ne_nil (by simpa using h)]
  rfl

theorem renderAll_taskForest {options : List (List Char)} (h : ∀ option ∈ options, option ≠ []) :
    renderAll [] 0 (taskForest options)
      = linesBefore ++ options.map (List.replicate 8 ' ' ++ ·) ++ linesAfter := by
  have hlines := renderAll_lines (0 + 1 + 1) h
  have hempty : ∀ depth, indented [] depth "".toList = spaced 0 "" := fun _ => rfl
  simp (disch := decide) only [taskForest, line, renderAll_cons, Node.render, hlines, renderAll_nil,
    hempty, indented_toList, List.cons_append, List.nil_append, List.append_nil, List.append_assoc]
  rfl

/-! ## Filling the template in -/

theorem intercalate_append_comma {items : List (List Char)} (h : items ≠ []) :
    [',', '\n'].intercalate items ++ [','] = joinLines (items.map (· ++ [','])) := by
  induction items with
  | nil => exact absurd rfl h
  | cons item items ih =>
    cases items with
    | nil => rw [List.intercalate_singleton, List.map_singleton, joinLines_singleton]
    | cons next items =>
      rw [List.intercalate_cons_cons, List.append_assoc, ih (by simp)]
      simp only [List.map_cons]
      rw [joinLines_cons_cons]
      simp

/-- The template with its options on lines of their own. -/
def filledTemplate (options : List (List Char)) : List (List Char) :=
  templateBefore.map String.toList ++ options ++ templateAfter.map String.toList

theorem taskTemplate_intercalate {items : List (List Char)} (h : items ≠ []) :
    taskTemplate ([',', '\n'].intercalate items)
      = joinLines (filledTemplate (items.map (· ++ [',']))) := by
  have hitems : items.map (· ++ [',']) ≠ [] := by simpa using h
  rw [taskTemplate, filledTemplate, intercalate_append_comma h]
  exact joinLines_joinLines (List.cons_ne_nil _ _) hitems (List.cons_ne_nil _ _)

section

variable {options : List (List Char)} (h : ∀ option ∈ options, (Node.line option).IsWritable)

include h

theorem noFeed_filledTemplate : ∀ s ∈ filledTemplate options, '\n' ∉ s := by
  intro s hs
  have hmem : s ∈ markedAll (taskForest options) := by
    rw [markedAll_taskForest]
    exact List.mem_append_left _ hs
  obtain ⟨node, hnode, hs⟩ := mem_markedAll.mp hmem
  exact noFeed_marked (isWritable_taskForest h node hnode) s hs

/-- The first and the last line are those of the template, and both can be seen. -/
theorem pieces_filledTemplate :
    (({} : Draft).add (joinLines (filledTemplate options))).pieces
      = (filledTemplate options).map pieceOf := by
  have hhead : (filledTemplate options).head? = some "import re".toList := rfl
  have hlast : (filledTemplate options).getLast?
      = some "# --------------------- Generated Code:".toList := by
    have hafter : templateAfter.map String.toList ≠ [] := List.cons_ne_nil _ _
    rw [filledTemplate, List.getLast?_append_of_ne_nil _ hafter]
    simp only [templateAfter, List.map_cons, List.map_nil, List.getLast?_cons_cons,
      List.getLast?_singleton]
  have hfirst : isVisible "import re".toList = true := by decide +kernel
  have hend : isVisible "# --------------------- Generated Code:".toList = true := by
    decide +kernel
  have hadd (s : List Char) : (({} : Draft).add s).pieces = Piece.ofText s := rfl
  rw [hadd, ofText_joinLines (noFeed_filledTemplate h) hhead hlast hfirst hend]

/-- Options on lines that are no marks of blocks leave the template as it is. -/
theorem text?_filledTemplate (hne : ∀ option ∈ options, option ≠ []) :
    (({} : Draft).add (joinLines (filledTemplate options))).text? = some (joinLines
      (linesBefore ++ options.map (List.replicate 8 ' ' ++ ·) ++ linesAfter)) := by
  rw [Draft.text?, toNodes?_of_pieces (isWritable_taskForest h) (markedAll_taskForest options)
    (pieces_filledTemplate h), Option.map_some]
  exact congrArg (fun lines => some (joinLines lines)) (renderAll_taskForest hne)

end

theorem isOneLine_fixed : ∀ l ∈ linesBefore ++ linesAfter, isOneLine l = true := by
  decide +kernel

/-- The lines of the header are read as they are, if each option is on one line. -/
theorem physicalLines_header {options : List (List Char)}
    (h : ∀ option ∈ options, isOneLine option = true) :
    physicalLines (joinLines
        (linesBefore ++ options.map (List.replicate 8 ' ' ++ ·) ++ linesAfter))
      = linesBefore ++ options.map (List.replicate 8 ' ' ++ ·) ++ linesAfter := by
  have hbefore : linesBefore ≠ [] := List.cons_ne_nil _ _
  have hafter : linesAfter ≠ [] := List.cons_ne_nil _ _
  have hspaces : isOneLine (List.replicate 8 ' ') = true := by decide
  apply physicalLines_joinLines_of_ne_nil
  · intro l hl
    simp only [List.mem_append, List.mem_map] at hl
    obtain (hl | ⟨option, hoption, rfl⟩) | hl := hl
    · exact isOneLine_fixed l (List.mem_append_left _ hl)
    · rw [isOneLine_append, hspaces, h option hoption]
      rfl
    · exact isOneLine_fixed l (List.mem_append_right _ hl)
  · rw [List.append_assoc, joinLines_append hbefore (List.append_ne_nil_of_right_ne_nil _ hafter)]
    simp

/-! ## Options -/

/-- What a task script is set up with: the values that its options are meant to have. -/
structure Setup where
  browserName : String
  channel : Option String
  headless : Bool
  screenshot : String
  viewport : Option (Int × Int)

namespace Setup

variable (s : Setup)

def options : Options where
  browserName := .text s.browserName
  channel := (s.channel.map Datum.text).getD .none
  headless := .bool s.headless
  screenshot := .text s.screenshot
  viewport := (s.viewport.map fun size => .tuple [.int size.1, .int size.2]).getD .none

/-- The engine of the browser, which is the channel in the family that has channels. -/
def engine? : Option String :=
  if s.browserName = "chromium" then s.channel else some s.browserName

/-- The arguments that the browser is configured with, in their order. -/
def arguments : List (String × Datum) :=
  (s.engine?.map fun engine => ("browser_engine", .text engine)).toList
    ++ [("headless", .bool s.headless), ("screenshot", .text s.screenshot)]
    ++ (s.viewport.map fun size => ("viewport_size", .tuple [.int size.1, .int size.2])).toList

/-- The sizes are not too long to be written. -/
def HasShortSizes : Prop :=
  ∀ size ∈ s.viewport, size.1.natAbs < 10 ^ Numeral.digitLimit
    ∧ size.2.natAbs < 10 ^ Numeral.digitLimit

theorem mem_arguments_iff {a : String × Datum} : a ∈ s.arguments ↔
    (∃ engine ∈ s.engine?, a = ("browser_engine", .text engine))
      ∨ a = ("headless", .bool s.headless) ∨ a = ("screenshot", .text s.screenshot)
      ∨ ∃ size ∈ s.viewport, a = ("viewport_size", .tuple [.int size.1, .int size.2]) := by
  simp only [arguments, List.mem_append, Option.mem_toList, Option.map_eq_some_iff, List.mem_cons,
    List.not_mem_nil, or_false, or_assoc, Option.mem_def, @eq_comm (String × Datum) _ a]

theorem browserEngine_options :
    browserEngine s.options = (s.engine?.map Datum.text).getD .none := by
  rw [browserEngine, engine?]
  by_cases hname : s.browserName = "chromium"
  · simp [options, hname]
  · simp [options, hname]

/-- An option under the name of its argument. -/
def renamed (o : String × Datum) : String × Datum :=
  (String.ofList (Naming.snakeCase o.1.toList), o.2)

theorem renamed_eq {name argument : String}
    (h : Naming.snakeCase name.toList = argument.toList) (d : Datum) :
    renamed (name, d) = (argument, d) := by
  rw [renamed, h, String.ofList_toList]

/-- The options that hold something, under the names of their arguments, are the arguments. -/
theorem map_canonical_configureOptions :
    (configureOptions s.options).canonical.map renamed = s.arguments := by
  have hsorted : (configureOptions s.options).Pairwise fun a b => a.1 < b.1 := by
    have hnames : ["browserEngine", "headless", "screenshot", "viewportSize"].Pairwise
        fun a b : String => a < b := by
      decide
    exact List.pairwise_map.mp hnames
  have hengine (d : Datum) : renamed ("browserEngine", d) = ("browser_engine", d) :=
    renamed_eq (by decide +kernel) d
  have hheadless (d : Datum) : renamed ("headless", d) = ("headless", d) :=
    renamed_eq (by decide +kernel) d
  have hscreenshot (d : Datum) : renamed ("screenshot", d) = ("screenshot", d) :=
    renamed_eq (by decide +kernel) d
  have hsize (d : Datum) : renamed ("viewportSize", d) = ("viewport_size", d) :=
    renamed_eq (by decide +kernel) d
  rw [Options.canonical_of_pairwise hsorted, configureOptions, browserEngine_options, arguments]
  cases s.engine? <;> cases hviewport : s.viewport <;>
    simp [options, hviewport, hengine, hheadless, hscreenshot, hsize, Datum.isNone]

end Setup

/-! ## Arguments -/

/-- An argument: its name, an equals sign and a literal. -/
def argument [Text.View] (a : String × Datum) : Except Literal.Fault (List Char) := do
  let value ← ofDatum a.2
  return a.1.toList ++ '=' :: value

theorem item_eq_argument [Text.View] {layout : Options.Layout} (h : layout.asDictionary = false)
    (o : String × Datum) : Options.item layout o = argument (Setup.renamed o) := by
  simp only [Options.item, argument, Setup.renamed, h, String.toList_ofList]
  rfl

theorem write_configureOptions [Text.View] {s : Setup} {items : List (List Char)}
    (h : s.arguments.mapM argument = .ok items) :
    (configureOptions s.options).write { separator := [',', '\n'] }
      = .ok ([',', '\n'].intercalate items) := by
  have hitem : Options.item { separator := [',', '\n'] } = argument ∘ Setup.renamed :=
    funext (item_eq_argument rfl)
  rw [Options.write_eq_intercalate rfl, hitem, ← List.mapM_map, s.map_canonical_configureOptions, h]
  rfl

/-- A header is written if the filled-in template can be read. -/
theorem taskHeader_eq_ok [Text.View] {o : Options} {options text : List Char}
    (hwrite : (configureOptions o).write { separator := [',', '\n'] } = .ok options)
    (htext : (({} : Draft).add (taskTemplate options)).text? = some text) :
    taskHeader o = .ok text := by
  refine Result.bind_eq_ok.mpr ⟨options, Result.mapError_eq_ok.mpr hwrite, ?_⟩
  rw [htext]
  rfl

/-- Texts with which a line can begin: not blank at their start, and without line breaks. -/
def isLineStart (s : List Char) : Bool :=
  s.head?.any (fun c => !isBlank c) && s.all fun c => 0x20 ≤ c.toNat

theorem isLineStart_of_mem_arguments {s : Setup} {a : String × Datum} (h : a ∈ s.arguments) :
    isLineStart a.1.toList = true := by
  have hnames : ∀ name ∈ ["browser_engine", "headless", "screenshot", "viewport_size"],
      isLineStart name.toList = true := by
    decide +kernel
  obtain ⟨engine, -, rfl⟩ | rfl | rfl | ⟨size, -, rfl⟩ := s.mem_arguments_iff.mp h
  all_goals exact hnames _ (by simp)

theorem hasLiteral_of_mem_arguments {s : Setup} (hsizes : s.HasShortSizes) {a : String × Datum}
    (h : a ∈ s.arguments) : HasLiteral a.2 ∧ restored a.2 = a.2 := by
  obtain ⟨engine, -, rfl⟩ | rfl | rfl | ⟨size, hsize, rfl⟩ := s.mem_arguments_iff.mp h
  · exact ⟨.text _, rfl⟩
  · exact ⟨.bool _, rfl⟩
  · exact ⟨.text _, rfl⟩
  · obtain ⟨hwidth, hheight⟩ := hsizes size hsize
    have hitems : ∀ d ∈ [Datum.int size.1, Datum.int size.2], HasLiteral d :=
      List.forall_mem_cons.mpr ⟨.int _ hwidth, List.forall_mem_singleton.mpr (.int _ hheight)⟩
    exact ⟨.tuple _ hitems, rfl⟩

/-- A line for an argument: its name, an equals sign, a literal that is read as its value and
a comma, behind eight spaces. -/
def IsArgumentLine [Text.View] (a : String × Datum) (l : List Char) : Prop :=
  ∃ literal, ofDatum a.2 = .ok literal ∧ read? literal = some a.2
    ∧ l = spaced 8 a.1 ++ '=' :: literal ++ [',']

/-- A text for an argument that can fill the template in. -/
structure FillsIn [Text.View] (a : String × Datum) (item : List Char) : Prop where
  line : IsArgumentLine a (List.replicate 8 ' ' ++ (item ++ [',']))
  writable : (Node.line (item ++ [','])).IsWritable
  one : isOneLine (item ++ [',']) = true

/-- An argument ends in a comma, and no white space stands before its name. -/
theorem fillsIn [Text.View] {a : String × Datum} {literal : List Char}
    (hwritten : ofDatum a.2 = .ok literal) (hread : read? literal = some a.2)
    (hliteral : ∀ c ∈ literal, 0x20 ≤ c.toNat) (hname : isLineStart a.1.toList = true) :
    FillsIn a (a.1.toList ++ '=' :: literal) := by
  simp only [isLineStart, Bool.and_eq_true, Option.any_eq_true, List.all_eq_true, Bool.not_eq_true',
    decide_eq_true_eq] at hname
  obtain ⟨⟨c, hc, hblank⟩, hname⟩ := hname
  have hhead : (a.1.toList ++ '=' :: literal ++ [',']).head? = some c := by
    simp [List.head?_append, hc]
  have hlast : (a.1.toList ++ '=' :: literal ++ [',']).getLast? = some ',' := List.getLast?_concat
  have hcontrol : ∀ x ∈ a.1.toList ++ '=' :: literal ++ [','], 0x20 ≤ x.toNat := by
    intro x hx
    simp only [List.mem_append, List.mem_cons, List.not_mem_nil, or_false] at hx
    obtain (hx | rfl | hx) | rfl := hx
    · exact hname x hx
    · decide
    · exact hliteral x hx
    · decide
  constructor
  case line => exact ⟨literal, hwritten, hread, by simp [spaced]⟩
  case writable =>
    refine .line ⟨?_, strip_eq_self hhead hblank hlast (by decide)⟩ ?_ ?_
    · intro hfeed
      exact absurd (hcontrol _ hfeed) (by decide)
    · intro hclose
      rw [hclose] at hlast
      cases hlast
    · rw [hlast]
      decide
  case one => exact isOneLine_of_not_control hcontrol

theorem exists_argument [Text.View] {s : Setup} (hsizes : s.HasShortSizes) {a : String × Datum}
    (ha : a ∈ s.arguments) : ∃ item, argument a = .ok item ∧ FillsIn a item := by
  obtain ⟨hliteral, hrestored⟩ := hasLiteral_of_mem_arguments hsizes ha
  obtain ⟨literal, hwritten, hcontrol, hreads⟩ := ofDatum_readsBack hliteral
  rw [hrestored] at hreads
  refine ⟨a.1.toList ++ '=' :: literal, ?_,
    fillsIn hwritten hreads.read? hcontrol (isLineStart_of_mem_arguments ha)⟩
  rw [argument, hwritten]
  rfl

theorem fillsIn_of_argument [Text.View] {s : Setup} (hsizes : s.HasShortSizes) {a : String × Datum}
    (ha : a ∈ s.arguments) {item : List Char} (h : argument a = .ok item) : FillsIn a item := by
  obtain ⟨other, hother, hfills⟩ := exists_argument hsizes ha
  rw [h] at hother
  cases hother
  exact hfills

/-- The header of a task script consists of fixed lines and, between them, of one line for each
argument that the browser is configured with, whatever the texts of its options are. -/
theorem header_of_setup [Text.View] (s : Setup) (hsizes : s.HasShortSizes) :
    ∃ lines, List.Forall₂ IsArgumentLine s.arguments lines
      ∧ header .robocorp s.options = .ok (joinLines (linesBefore ++ lines ++ linesAfter))
      ∧ physicalLines (joinLines (linesBefore ++ lines ++ linesAfter))
        = linesBefore ++ lines ++ linesAfter := by
  obtain ⟨items, hitems⟩ := Result.exists_mapM_eq_ok fun a ha =>
    (exists_argument hsizes ha).imp fun _ h => h.1
  have hfills : ∀ option ∈ items.map (· ++ [',']), (Node.line option).IsWritable
      ∧ isOneLine option = true ∧ option ≠ [] := by
    intro option hoption
    obtain ⟨item, hitem, rfl⟩ := List.mem_map.mp hoption
    obtain ⟨a, ha, hwritten⟩ := Result.exists_of_mapM_eq_ok hitems hitem
    have hfill := fillsIn_of_argument hsizes ha hwritten
    exact ⟨hfill.writable, hfill.one, by simp⟩
  have hne : items ≠ [] := by
    intro hnil
    have hlength := Result.length_of_mapM_eq_ok hitems
    simp [hnil, Setup.arguments] at hlength
  refine ⟨(items.map (· ++ [','])).map (List.replicate 8 ' ' ++ ·), ?_, ?_,
    physicalLines_header fun option hoption => (hfills option hoption).2.1⟩
  · rw [List.map_map, List.forall₂_map_right_iff]
    have hall := (List.forall₂_and_left _ _).mpr ⟨fun a ha => ha, Result.mapM_eq_ok.mp hitems⟩
    refine hall.imp ?_
    rintro a item ⟨ha, hwritten⟩
    exact (fillsIn_of_argument hsizes ha hwritten).line
  · apply taskHeader_eq_ok (write_configureOptions hitems)
    rw [taskTemplate_intercalate hne]
    exact text?_filledTemplate (fun option hoption => (hfills option hoption).1)
      fun option hoption => (hfills option hoption).2.2

/-- A closing brace on a line of its own, and an opening one at the end. -/
def bracedSetup : Setup :=
  { browserName := "a\n\x7d", channel := none, headless := true, screenshot := "x \x7b",
    viewport := some (800, 600) }

theorem header_of_setup_braced :
    bracedSetup.HasShortSizes ∧ ∃ lines, List.Forall₂ IsArgumentLine
        [("browser_engine", .text "a\n\x7d"), ("headless", .bool true),
          ("screenshot", .text "x \x7b"), ("viewport_size", .tuple [.int 800, .int 600])] lines
      ∧ header .robocorp bracedSetup.options
        = .ok (joinLines (linesBefore ++ lines ++ linesAfter)) := by
  have hsizes : bracedSetup.HasShortSizes := by
    intro size hsize
    cases hsize
    exact ⟨by decide +kernel, by decide +kernel⟩
  obtain ⟨lines, hlines, hhead, -⟩ := header_of_setup bracedSetup hsizes
  exact ⟨hsizes, lines, hlines, hhead⟩

end Retrace.Script
