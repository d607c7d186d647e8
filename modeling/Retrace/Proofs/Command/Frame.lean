import Retrace.Command.Run
import Retrace.Proofs.Command.Arguments
import Retrace.Proofs.Command.Printing
import Retrace.Proofs.Files.Tree
import Retrace.Proofs.Text.Utf8

/-!
# What runs leave as it is

A run writes the file that its command line names as the output, or a settings file where there
is none, and makes the directories they are in. Everything else stays. A script is written
only when it is complete, and it is the one that is printed if no output is named, except that
control sequences are printed on a terminal only.
-/

namespace Retrace.Command

open Files

variable {s : Setting} {isVerbose : Bool} {o : Generate} {d : Path} {words : List String}
  {out : Outcome}

/-! ## How commands end -/

/-- How generating a script can end. -/
inductive Generated (isVerbose : Bool) (s : Setting) (o : Generate) : Outcome → Prop
  | reported {fault : Fault} (h : scriptPoints s o = .error fault)
    (hfault : fault.isReported = true) :
    Generated isVerbose s o
      { exitCode := 1
        errors := recordLines isVerbose (makingRecords s o)
          ++ [s.errorLine (report fault.message)]
        tree := s.tree }
  | escaped {fault : Fault} (h : scriptPoints s o = .error fault)
    (hfault : fault.isReported = false) :
    Generated isVerbose s o
      { exitCode := 1
        errors := recordLines isVerbose (makingRecords s o)
        tree := s.tree
        escaped := some fault }
  | unprintable {points : List Nat} {fault : Text.Unencodable} (h : scriptPoints s o = .ok points)
    (houtput : o.output = none)
    (htext : Text.characters (echo s.outputIsTerminal points) = .error fault) :
    Generated isVerbose s o
      { exitCode := 1
        errors := recordLines isVerbose (makingRecords s o)
        tree := s.tree
        escaped := some (.encoding fault) }
  | printed {points : List Nat} {text : List Char} (h : scriptPoints s o = .ok points)
    (houtput : o.output = none)
    (htext : Text.characters (echo s.outputIsTerminal points) = .ok text) :
    Generated isVerbose s o
      { exitCode := 0
        output := [String.ofList text]
        errors := recordLines isVerbose (makingRecords s o)
        tree := s.tree }
  | unwritten {points : List Nat} {text : List Char} {path : Path} {tree : Tree}
    {fault : Files.Fault} (h : scriptPoints s o = .ok points) (houtput : o.output = some path)
    (hwrite : writeFile s.tree path text = ⟨tree, some fault⟩) :
    Generated isVerbose s o
      { exitCode := 1
        errors := recordLines isVerbose (makingRecords s o)
        tree
        escaped := some (.file fault) }
  | unencodable {points : List Nat} {path : Path} {tree : Tree} {fault : Text.Unencodable}
    (h : scriptPoints s o = .ok points) (houtput : o.output = some path)
    (htext : Text.characters points = .error fault)
    (hwrite : writeFile s.tree path [] = ⟨tree, none⟩) :
    Generated isVerbose s o
      { exitCode := 1
        errors := recordLines isVerbose (makingRecords s o)
        tree
        escaped := some (.encoding fault) }
  | written {points : List Nat} {script : List Char} {path : Path} {tree : Tree}
    (h : scriptPoints s o = .ok points) (houtput : o.output = some path)
    (htext : Text.characters points = .ok script)
    (hwrite : writeFile s.tree path script = ⟨tree, none⟩) :
    Generated isVerbose s o
      { exitCode := 0
        output := [s.outputLine ("スクリプトを生成しました: " ++ path.toString)]
        errors := recordLines isVerbose (makingRecords s o ++ [writtenRecord path])
        tree }

theorem generated (isVerbose : Bool) (s : Setting) (o : Generate) :
    Generated isVerbose s o (generate isVerbose s o) := by
  unfold generate
  cases h : scriptPoints s o with
  | error fault =>
    dsimp only
    split_ifs with hfault
    · exact .reported h hfault
    · exact .escaped h (by simpa using hfault)
  | ok points =>
    dsimp only
    cases houtput : o.output with
    | none =>
      dsimp only
      cases htext : Text.characters (echo s.outputIsTerminal points) with
      | error fault => exact .unprintable h houtput htext
      | ok text => exact .printed h houtput htext
    | some path =>
      dsimp only
      cases htext : Text.characters points with
      | error fault =>
        dsimp only
        rcases hwrite : writeFile s.tree path [] with ⟨tree, _ | file⟩
        · exact .unencodable h houtput htext hwrite
        · exact .unwritten h houtput hwrite
      | ok script =>
        dsimp only
        rcases hwrite : writeFile s.tree path script with ⟨tree, _ | fault⟩
        · exact .written h houtput htext hwrite
        · exact .unwritten h houtput hwrite

/-- The settings file of a directory. -/
def settingsFile (d : Path) : Path := d.child "recgen.yaml"

/-- How making a settings file can end. -/
inductive Made (s : Setting) (d : Path) : Outcome → Prop
  | refused {tree : Tree} {fault : Files.Fault}
    (h : s.tree.makeDirectories d = ⟨tree, some fault⟩) :
    Made s d { exitCode := 1, errors := [s.errorLine (report fault.message)], tree }
  | found {tree : Tree} (h : s.tree.makeDirectories d = ⟨tree, none⟩)
    (hfile : tree.has (settingsFile d) = true) :
    Made s d
      { exitCode := 0
        output := [s.outputLine ("設定ファイルは既に存在します: " ++ (settingsFile d).toString)]
        tree }
  | unwritten {tree : Tree} {fault : Files.Fault}
    (h : s.tree.makeDirectories d = ⟨tree, none⟩) (hfile : tree.has (settingsFile d) = false)
    (hwrite : tree.write (settingsFile d) (Text.Utf8.encode settingsTemplate.toList)
      = .error fault) :
    Made s d { exitCode := 1, errors := [s.errorLine (report fault.message)], tree }
  | written {tree after : Tree} (h : s.tree.makeDirectories d = ⟨tree, none⟩)
    (hfile : tree.has (settingsFile d) = false)
    (hwrite : tree.write (settingsFile d) (Text.Utf8.encode settingsTemplate.toList)
      = .ok after) :
    Made s d
      { exitCode := 0
        output := [s.outputLine ("設定ファイルを作成しました: " ++ absolute s (settingsFile d))]
        tree := after }

theorem made (s : Setting) (d : Path) : Made s d (makeSettings s d) := by
  unfold makeSettings
  rcases h : s.tree.makeDirectories d with ⟨tree, _ | fault⟩
  · dsimp only
    cases hfile : tree.has (d.child "recgen.yaml") with
    | true => exact .found h hfile
    | false =>
      rw [if_neg Bool.false_ne_true]
      cases hwrite : tree.write (d.child "recgen.yaml")
          (Text.Utf8.encode settingsTemplate.toList) with
      | error fault => exact .unwritten h hfile hwrite
      | ok after => exact .written h hfile hwrite
  · exact .refused h

/-! ## What is kept -/

theorem keeps_writeFile (t : Tree) (p : Path) (text : List Char) :
    Tree.Keeps (some p.location) t (writeFile t p text).tree := by
  apply Change.keeps_next ((Tree.keeps_makeDirectories t p.parent).weaken _)
  intro t
  cases hwrite : t.write p (Text.Utf8.encode text) with
  | error fault => exact .refl _ t
  | ok after => exact Tree.keeps_write hwrite

theorem read_of_writeFile {t t' : Tree} {p : Path} {text : List Char}
    (h : writeFile t p text = ⟨t', none⟩) : t'.read p = .ok (Text.Utf8.encode text) := by
  rw [writeFile] at h
  cases hmake : (t.makeDirectories p.parent).fault with
  | some fault =>
    rw [Change.next_of_some hmake] at h
    rw [h] at hmake
    cases hmake
  | none =>
    rw [Change.next_of_none hmake] at h
    cases hwrite : (t.makeDirectories p.parent).tree.write p (Text.Utf8.encode text) with
    | error fault =>
      rw [hwrite] at h
      cases h
    | ok after =>
      rw [hwrite] at h
      cases h
      exact Tree.read_of_write hwrite

theorem Generated.keeps (h : Generated isVerbose s o out) :
    Tree.Keeps (o.output.map Path.location) s.tree out.tree := by
  have hwritten {path : Path} {script : List Char} {c : Change} (houtput : o.output = some path)
      (hwrite : writeFile s.tree path script = c) :
      Tree.Keeps (o.output.map Path.location) s.tree c.tree := by
    rw [houtput, ← hwrite]
    exact keeps_writeFile s.tree path script
  cases h with
  | reported => exact .refl _ s.tree
  | escaped => exact .refl _ s.tree
  | unprintable => exact .refl _ s.tree
  | printed => exact .refl _ s.tree
  | unwritten _ houtput hwrite => exact hwritten houtput hwrite
  | unencodable _ houtput _ hwrite => exact hwritten houtput hwrite
  | written _ houtput _ hwrite => exact hwritten houtput hwrite

theorem Made.keeps (h : Made s d out) : Tree.Keeps none s.tree out.tree := by
  have hmade {c : Change} (h : s.tree.makeDirectories d = c) : Tree.Keeps none s.tree c.tree := by
    rw [← h]
    exact Tree.keeps_makeDirectories s.tree d
  cases h with
  | refused h => exact hmade h
  | found h => exact hmade h
  | unwritten h => exact hmade h
  | written h hfile hwrite => exact (hmade h).trans (Tree.keeps_write_new hfile hwrite)

/-- Where the output of a task is written. -/
def Task.target? : Task → Option Location
  | .generate o => o.output.map Path.location
  | .languages | .makeSettings _ => none

/-- Where the output that a command line names is written. -/
def target? (words : List String) : Option Location :=
  (Request.ofWords? words).bind fun r => r.task.target?

theorem keeps_answer (s : Setting) (r : Request) :
    Tree.Keeps r.task.target? s.tree (answer s r).tree := by
  obtain ⟨isVerbose, task⟩ := r
  cases task with
  | generate o => exact (generated isVerbose s o).keeps
  | languages => exact .refl _ s.tree
  | makeSettings d => exact (made s d).keeps

theorem run_eq_answer (s : Setting) {r : Request} (h : Request.ofWords? words = some r)
    (hpaths : ∀ p ∈ r.task.paths, p.hasNull = false) : run s words = answer s r := by
  have hfind : r.task.paths.find? Path.hasNull = none := by
    rw [List.find?_eq_none]
    intro p hp
    simp [hpaths p hp]
  rw [run, h]
  dsimp only
  rw [hfind]

/-- A run answers the request, unless a path that cannot be one ends it at once. -/
theorem run_of_request (s : Setting) {r : Request} (h : Request.ofWords? words = some r) :
    (∀ p ∈ r.task.paths, p.hasNull = false)
      ∨ ∃ p ∈ r.task.paths, p.hasNull = true ∧ run s words
        = { exitCode := 1, tree := s.tree, escaped := some (.file ⟨.nullCharacter, p⟩) } := by
  cases hnull : r.task.paths.find? Path.hasNull with
  | none => exact .inl (by simpa using hnull)
  | some p =>
    refine .inr ⟨p, List.mem_of_find?_eq_some hnull, List.find?_some hnull, ?_⟩
    rw [run, h]
    dsimp only
    rw [hnull]

theorem keeps_run (s : Setting) (words : List String) :
    Tree.Keeps (target? words) s.tree (run s words).tree := by
  cases h : Request.ofWords? words with
  | none =>
    rw [run, h]
    exact .refl _ s.tree
  | some r =>
    rw [target?, h]
    obtain hpaths | ⟨p, -, -, hrun⟩ := run_of_request s h
    · rw [run_eq_answer s h hpaths]
      exact keeps_answer s r
    · rw [hrun]
      exact .refl _ s.tree

/-! ## Settings files -/

theorem Made.tree_of_has (h : Made s d out) (hfile : s.tree.has (settingsFile d) = true) :
    out.tree = s.tree := by
  obtain ⟨l, hl, -⟩ := Tree.has_iff.mp hfile
  have hmake := Tree.makeDirectories_of_isDirectory (Tree.isDirectory_of_locate_child hl)
  cases h with
  | refused h =>
    rw [hmake] at h
    cases h
  | found h =>
    rw [hmake] at h
    cases h
    rfl
  | unwritten h =>
    rw [hmake] at h
    cases h
    rfl
  | written h hnew =>
    rw [hmake] at h
    cases h
    rw [hfile] at hnew
    cases hnew

theorem Made.has (h : Made s d out) (hok : out.exitCode = 0) :
    out.tree.has (settingsFile d) = true := by
  cases h with
  | refused => cases hok
  | found _ hfile => exact hfile
  | unwritten => cases hok
  | written _ _ hwrite => exact Tree.has_of_read (Tree.read_of_write hwrite)

/-- What has been tried once is not changed when it is tried again. -/
theorem Made.again {again : Outcome} (h : Made s d out)
    (hagain : Made { s with tree := out.tree } d again) : again.tree = out.tree := by
  by_cases hfile : out.tree.has (settingsFile d) = true
  · exact hagain.tree_of_has hfile
  · have hmake := Tree.tree_makeDirectories_makeDirectories s.tree d
    cases h with
    | refused hrefused =>
      rw [hrefused] at hmake
      have hfault := mt hmake.2.mp nofun
      cases hagain with
      | refused h =>
        rw [h] at hmake
        exact hmake.1
      | found h => exact absurd (by rw [h]) hfault
      | unwritten h => exact absurd (by rw [h]) hfault
      | written h => exact absurd (by rw [h]) hfault
    | found _ hfound => exact absurd hfound hfile
    | unwritten hmade _ hwrite =>
      rw [hmade] at hmake
      have hagainMade := hmake.2.mpr rfl
      cases hagain with
      | refused h =>
        rw [h] at hagainMade
        cases hagainMade
      | found h =>
        rw [h] at hmake
        exact hmake.1
      | unwritten h =>
        rw [h] at hmake
        exact hmake.1
      | written h _ hwritten =>
        rw [h] at hmake
        cases hmake.1
        rw [hwrite] at hwritten
        cases hwritten
    | written _ _ hwrite =>
      exact absurd (Tree.has_of_read (Tree.read_of_write hwrite)) hfile

/-! ## Several runs -/

/-- Where a run takes place after others. -/
def Setting.after (s : Setting) (before : List (List String)) : Setting :=
  before.foldl (fun s words => { s with tree := (run s words).tree }) s

theorem getElem?_runAll (s : Setting) (before : List (List String)) (words : List String)
    (after : List (List String)) :
    (runAll s (before ++ words :: after))[before.length]? = some (run (s.after before) words) := by
  induction before generalizing s with
  | nil => rfl
  | cons first before ih => exact ih _

/-- A file that none of the runs names as its output keeps its content. -/
theorem read_after {p : Path} {content : List UInt8} {before : List (List String)}
    (h : s.tree.read p = .ok content) (hother : ∀ words ∈ before, target? words ≠ some p.location) :
    (s.after before).tree.read p = .ok content := by
  induction before generalizing s with
  | nil => exact h
  | cons words before ih =>
    obtain ⟨hwords, hbefore⟩ := List.forall_mem_cons.mp hother
    exact ih ((keeps_run s words).read h hwords) hbefore

theorem has_after {p : Path} (h : s.tree.has p = true) (before : List (List String)) :
    (s.after before).tree.has p = true := by
  induction before generalizing s with
  | nil => exact h
  | cons words before ih => exact ih ((keeps_run s words).has h)

/-! ## The whole effect of a run -/

/-- The text that a run prints. -/
def Outcome.printed (o : Outcome) : List Char := o.output.flatMap fun line => line.toList ++ ['\n']

/-- A run changes nothing but what its command line names. -/
structure TouchesOnlyNamed (s : Setting) (words : List String) : Prop where
  /-- Everything that is there stays, with its content unless it is the output. -/
  keeps : Tree.Keeps (target? words) s.tree (run s words).tree
  read : ∀ p content, s.tree.read p = .ok content → target? words ≠ some p.location →
    (run s words).tree.read p = .ok content
  /-- Settings that are there are left as they are. -/
  settings : ∀ isVerbose d, Request.ofWords? words = some ⟨isVerbose, .makeSettings d⟩ →
    s.tree.has (settingsFile d) = true → (run s words).tree = s.tree
  /-- Settings are made once: what has been made is not made again, whatever was run in between,
  and what could not be made is not changed at once. -/
  again : ∀ isVerbose isVerbose' d words',
    Request.ofWords? words = some ⟨isVerbose, .makeSettings d⟩ →
    Request.ofWords? words' = some ⟨isVerbose', .makeSettings d⟩ →
    (run (s.after [words]) words').tree = (s.after [words]).tree
      ∧ ((run s words).exitCode = 0 → ∀ between,
        (run (s.after (words :: between)) words').tree = (s.after (words :: between)).tree)
  languages : ∀ isVerbose, Request.ofWords? words = some ⟨isVerbose, .languages⟩ →
    (run s words).tree = s.tree
  printing : ∀ isVerbose o, Request.ofWords? words = some ⟨isVerbose, .generate o⟩ →
    o.output = none → (run s words).tree = s.tree
  /-- A run that fails with a message has changed nothing. -/
  reported : ∀ isVerbose o, Request.ofWords? words = some ⟨isVerbose, .generate o⟩ →
    (run s words).exitCode = 1 → (run s words).escaped = none →
    (run s words).tree = s.tree
      ∧ ∃ lines message, (run s words).errors = lines ++ [report message]
  /-- What is written is what would be printed, if that goes to a terminal or has no control
  sequences. -/
  output : ∀ isVerbose o p, Request.ofWords? words = some ⟨isVerbose, .generate o⟩ →
    o.output = some p → (run s words).exitCode = 0 →
    ∃ script, (run s words).tree.read p = .ok (Text.Utf8.encode script)
      ∧ Request.ofWords? (withoutOutput words)
        = some ⟨isVerbose, .generate { o with output := none }⟩
      ∧ (run s (withoutOutput words)).exitCode = 0
      ∧ (run s (withoutOutput words)).printed = echoed s.outputIsTerminal script ++ ['\n']
      ∧ ((run s (withoutOutput words)).printed = script ++ ['\n']
        ↔ s.outputIsTerminal = true ∨ ¬ Text.HasSequence (Text.pointsOf script))

theorem run_makeSettings (h : Request.ofWords? words = some ⟨isVerbose, .makeSettings d⟩) :
    (d.hasNull = true ∧ (run s words).tree = s.tree ∧ (run s words).exitCode = 1)
      ∨ (d.hasNull = false ∧ Made s d (run s words)) := by
  rw [run, h]
  simp only [Task.paths, List.find?_cons, List.find?_nil]
  cases hnull : d.hasNull with
  | true => exact .inl ⟨rfl, rfl, rfl⟩
  | false => exact .inr ⟨rfl, made s d⟩

theorem run_generate (s : Setting) (h : Request.ofWords? words = some ⟨isVerbose, .generate o⟩) :
    ((run s words).tree = s.tree ∧ (run s words).exitCode = 1 ∧ (run s words).escaped ≠ none)
      ∨ ((∀ p ∈ (Task.generate o).paths, p.hasNull = false)
        ∧ Generated isVerbose s o (run s words)) := by
  obtain hpaths | ⟨p, -, -, hrun⟩ := run_of_request s h
  · rw [run_eq_answer s h hpaths]
    exact .inr ⟨hpaths, generated isVerbose s o⟩
  · rw [hrun]
    exact .inl ⟨rfl, rfl, nofun⟩

/-- The same script, to be printed. -/
theorem run_withoutOutput (s : Setting)
    (h : Request.ofWords? words = some ⟨isVerbose, .generate o⟩)
    (hpaths : ∀ p ∈ (Task.generate o).paths, p.hasNull = false) :
    run s (withoutOutput words) = generate isVerbose s { o with output := none } := by
  apply run_eq_answer s (ofWords?_withoutOutput h)
  intro p hp
  apply hpaths
  simp only [Task.paths, Option.toList_none, List.nil_append, List.mem_cons,
    List.mem_append, List.cons_append] at hp ⊢
  exact hp.imp_right .inr

theorem tree_run_makeSettings (h : Request.ofWords? words = some ⟨isVerbose, .makeSettings d⟩)
    (hfile : s.tree.has (settingsFile d) = true) : (run s words).tree = s.tree := by
  obtain ⟨-, htree, -⟩ | ⟨-, hmade⟩ := run_makeSettings h (s := s)
  · exact htree
  · exact hmade.tree_of_has hfile

theorem tree_run_again {isVerbose' : Bool} {words' : List String}
    (h : Request.ofWords? words = some ⟨isVerbose, .makeSettings d⟩)
    (h' : Request.ofWords? words' = some ⟨isVerbose', .makeSettings d⟩) :
    (run (s.after [words]) words').tree = (s.after [words]).tree := by
  obtain ⟨hnull, -⟩ | ⟨hnull, hmade⟩ := run_makeSettings h (s := s)
  · obtain ⟨-, htree, -⟩ | ⟨hnull', -⟩ := run_makeSettings h' (s := s.after [words])
    · exact htree
    · rw [hnull] at hnull'
      cases hnull'
  · obtain ⟨-, htree, -⟩ | ⟨-, hagain⟩ := run_makeSettings h' (s := s.after [words])
    · exact htree
    · exact hmade.again hagain

theorem has_run_makeSettings (h : Request.ofWords? words = some ⟨isVerbose, .makeSettings d⟩)
    (hok : (run s words).exitCode = 0) : (run s words).tree.has (settingsFile d) = true := by
  obtain ⟨-, -, hexit⟩ | ⟨-, hmade⟩ := run_makeSettings h (s := s)
  · rw [hexit] at hok
    cases hok
  · exact hmade.has hok

theorem Generated.tree_of_output_eq_none (h : Generated isVerbose s o out)
    (houtput : o.output = none) : out.tree = s.tree := by
  cases h with
  | reported => rfl
  | escaped => rfl
  | unprintable => rfl
  | printed => rfl
  | unwritten _ hsome =>
    rw [houtput] at hsome
    cases hsome
  | unencodable _ hsome =>
    rw [houtput] at hsome
    cases hsome
  | written _ hsome =>
    rw [houtput] at hsome
    cases hsome

theorem Generated.reported_of_exitCode (h : Generated isVerbose s o out) (hexit : out.exitCode = 1)
    (hescaped : out.escaped = none) :
    out.tree = s.tree ∧ ∃ lines message, out.errors = lines ++ [report message] := by
  cases h with
  | reported =>
    rw [errorLine_report]
    exact ⟨rfl, _, _, rfl⟩
  | escaped => cases hescaped
  | unprintable => cases hescaped
  | printed => cases hexit
  | unwritten => cases hescaped
  | unencodable => cases hescaped
  | written => cases hexit

/-- What a run that succeeds has written is its script. -/
theorem Generated.read_output {p : Path} (h : Generated isVerbose s o out)
    (houtput : o.output = some p) (hok : out.exitCode = 0) :
    ∃ script, scriptPoints s o = .ok (Text.pointsOf script)
      ∧ out.tree.read p = .ok (Text.Utf8.encode script) := by
  cases h with
  | reported => cases hok
  | escaped => cases hok
  | unprintable => cases hok
  | printed _ hnone =>
    rw [houtput] at hnone
    cases hnone
  | unwritten => cases hok
  | unencodable => cases hok
  | written h hpath htext hwrite =>
    rw [houtput] at hpath
    cases hpath
    rw [points_of_characters h htext] at h
    exact ⟨_, h, read_of_writeFile hwrite⟩

/-- The script is what would be printed if no output were named. -/
theorem generate_withoutOutput (isVerbose : Bool) {script : List Char}
    (h : scriptPoints s o = .ok (Text.pointsOf script)) :
    (generate isVerbose s { o with output := none }).exitCode = 0
      ∧ (generate isVerbose s { o with output := none }).printed
        = echoed s.outputIsTerminal script ++ ['\n'] := by
  have hscript : scriptPoints s { o with output := none } = .ok (Text.pointsOf script) := h
  have hprinted : generate isVerbose s { o with output := none }
      = { exitCode := 0
          output := [String.ofList (echoed s.outputIsTerminal script)]
          errors := recordLines isVerbose (makingRecords s { o with output := none })
          tree := s.tree } := by
    rw [generate, hscript]
    dsimp only
    rw [characters_echo]
  rw [hprinted]
  simp [Outcome.printed]

theorem touchesOnlyNamed (s : Setting) (words : List String) : TouchesOnlyNamed s words where
  keeps := keeps_run s words
  read p content hread hother := (keeps_run s words).read hread hother
  settings isVerbose d h hfile := tree_run_makeSettings h hfile
  again isVerbose isVerbose' d words' h h' := by
    refine ⟨tree_run_again h h', ?_⟩
    intro hok between
    exact tree_run_makeSettings h' (has_after (has_run_makeSettings h hok) between)
  languages isVerbose h := by
    rw [run_eq_answer s h nofun]
    rfl
  printing isVerbose o h houtput := by
    obtain ⟨htree, -⟩ | ⟨-, hgenerated⟩ := run_generate s h
    · exact htree
    · exact hgenerated.tree_of_output_eq_none houtput
  reported isVerbose o h hexit hescaped := by
    obtain ⟨-, -, hne⟩ | ⟨-, hgenerated⟩ := run_generate s h
    · exact absurd hescaped hne
    · exact hgenerated.reported_of_exitCode hexit hescaped
  output isVerbose o p h houtput hok := by
    obtain ⟨-, hexit, -⟩ | ⟨hpaths, hgenerated⟩ := run_generate s h
    · rw [hexit] at hok
      cases hok
    · rw [run_withoutOutput s h hpaths]
      obtain ⟨script, hscript, hread⟩ := hgenerated.read_output houtput hok
      obtain ⟨hexit, hprinted⟩ := generate_withoutOutput isVerbose hscript
      refine ⟨script, hread, ofWords?_withoutOutput h, hexit, hprinted, ?_⟩
      rw [hprinted, List.append_cancel_right_eq]
      exact echoed_eq_self_iff s.outputIsTerminal script

/-- An empty recording, at a terminal. -/
def exampleSetting : Setting where
  tree := ⟨[(⟨false, ["rec.json"]⟩, .file [91, 93])]⟩
  environment := []
  directory := ⟨true, ["work"]⟩
  outputIsTerminal := true

/-- A recording whose page is named with a control sequence. -/
def sequenceSetting : Setting where
  tree := ⟨[(⟨false, ["rec.json"]⟩, .file (Text.Utf8.encode
    ("[\x7b\"frame\": \x7b\"pageAlias\": \"page\\u001b[0m\"\x7d, "
      ++ "\"action\": \x7b\"name\": \"closePage\"\x7d\x7d]").toList))]⟩
  environment := []
  directory := ⟨true, ["work"]⟩

end Retrace.Command
