import Retrace.Command.Arguments
import Retrace.Fault
import Retrace.Script.Records
import Retrace.Text.Sequence

/-!
# Runs

A run answers a command line in a directory tree and an environment. It prints
what it produces, writes what it records and reports to the error output, and
leaves a tree behind. A command line that asks for nothing known is refused; a
fault that is not reported escapes.

The output takes what UTF-8 can encode. In the error output, which also takes
halves of surrogate pairs, they are written by number.
-/

namespace Retrace.Command

open Files Log

/-- Where a run takes place. -/
structure Setting where
  tree : Tree
  environment : Settings.Environment
  /-- The working directory. -/
  directory : Path
  outputIsTerminal : Bool := false
  errorsAreTerminal : Bool := false

structure Outcome where
  exitCode : Nat
  output : List String := []
  errors : List String := []
  tree : Tree
  escaped : Option Fault := none

/-! ## Printing -/

/-- What is printed of a text: control sequences are for terminals only. -/
def echo (isTerminal : Bool) (points : List Nat) : List Nat :=
  if isTerminal then points else Text.withoutSequences points

/-- What is printed of characters. -/
def echoed (isTerminal : Bool) (text : List Char) : List Char :=
  (echo isTerminal (Text.pointsOf text)).map Char.ofNat

namespace Setting

/-- A line as the output gets it. -/
def outputLine (s : Setting) (line : String) : String :=
  String.ofList (echoed s.outputIsTerminal line.toList)

/-- A line as the error output gets it; records do not come this way. -/
def errorLine (s : Setting) (line : String) : String :=
  String.ofList (echoed s.errorsAreTerminal line.toList)

end Setting

/-! ## Generating a script -/

def lift {ε α : Type} (f : ε → Fault) (x : Except ε α) : Logged Fault α :=
  match x with
  | .ok a => pure a
  | .error e => throw (f e)

/-- What a command line overrides. -/
def Generate.overrides (o : Generate) : Settings.Overrides :=
  [("language", Recording.optionDatum .text o.language),
    ("locator_style", Recording.optionDatum .text o.locatorStyle),
    ("save_storage", Recording.optionDatum .text o.saveStorage),
    ("headless", if o.headed then .bool false else .none)]

/-- Makes the script that a command line asks for, as a view shows it. -/
def makeScript [Text.View] (s : Setting) (o : Generate) : Logged Fault (List Char) := do
  let layers := Settings.resolve s.tree s.environment o.settings o.overrides
  tell layers.records
  let settings ← lift .settings layers.result
  let style ← lift .language (Language.checkStyle settings.locatorStyle.plain)
  tell Language.registrationRecords
  let (info, g) ← lift .language
    ((Language.standard style Locator.ofSelector).getNamed settings.language)
  let recording ← lift .recording (Recording.load s.tree o.recording)
  tell [Recording.loadedRecord o.recording recording]
  tell (g.records info.id recording settings.headerOptions)
  let saveStorage := settings.saveStorage.viewed.text?
  lift .script (g.script recording settings.headerOptions saveStorage)

/-- The code points of the script that a command line asks for. -/
def scriptPoints (s : Setting) (o : Generate) : Except Fault (List Nat) := do
  let lower ← (@makeScript .lower s o).outcome.1
  let upper ← (@makeScript .upper s o).outcome.1
  return Text.seen lower upper

/-- A record of which a lower and an upper view are given. -/
def seenRecord (lower upper : Record) : Record :=
  let points := Text.seen lower.message.toList upper.message.toList
  { lower with message := String.ofList (Text.escapeHalves points) }

/-- What is recorded while a script is made. -/
def makingRecords (s : Setting) (o : Generate) : List Record :=
  List.zipWith seenRecord (@makeScript .lower s o).outcome.2 (@makeScript .upper s o).outcome.2

/-- Writes a text, and the directories that it is in. -/
def writeFile (t : Tree) (p : Path) (text : List Char) : Change :=
  (t.makeDirectories p.parent).next fun t => .single t (t.write p (Text.Utf8.encode text))

def writtenRecord (p : Path) : Record :=
  info "recgen.script" ("スクリプトを書き出しました: " ++ p.toString)

def recordLines (isVerbose : Bool) (records : List Record) : List String :=
  if isVerbose then verboseLines records else quietLines records

/-- How a fault is shown to the user. -/
def report (message : String) : String := "エラー: " ++ message

def generate (isVerbose : Bool) (s : Setting) (o : Generate) : Outcome :=
  let records := makingRecords s o
  let lines := recordLines isVerbose records
  match scriptPoints s o with
  | .error fault =>
    if fault.isReported then
      { exitCode := 1
        errors := lines ++ [s.errorLine (report fault.message)]
        tree := s.tree }
    else { exitCode := 1, errors := lines, tree := s.tree, escaped := some fault }
  | .ok points =>
    match o.output with
    | none =>
      match Text.characters (echo s.outputIsTerminal points) with
      | .error fault =>
        { exitCode := 1, errors := lines, tree := s.tree, escaped := some (.encoding fault) }
      | .ok text =>
        { exitCode := 0, output := [String.ofList text], errors := lines, tree := s.tree }
    | some path =>
      match Text.characters points with
      | .error fault =>
        -- The file is there, and empty, before anything is encoded.
        let ⟨tree, unwritten⟩ := writeFile s.tree path []
        { exitCode := 1
          errors := lines
          tree
          escaped := some ((unwritten.map .file).getD (.encoding fault)) }
      | .ok script =>
        match writeFile s.tree path script with
        | ⟨tree, some fault⟩ =>
          { exitCode := 1, errors := lines, tree, escaped := some (.file fault) }
        | ⟨tree, none⟩ =>
          { exitCode := 0
            output := [s.outputLine ("スクリプトを生成しました: " ++ path.toString)]
            errors := recordLines isVerbose (records ++ [writtenRecord path])
            tree }

/-! ## The other commands -/

/-- Fills a text up with blanks on the right. -/
def padRight (width : Nat) (s : String) : String :=
  s ++ String.ofList (List.replicate (width - s.length) ' ')

def languageLine (i : Language.Info) : String := s!"{padRight 10 i.id} {i.group} / {i.name}"

def languages (isVerbose : Bool) (s : Setting) : Outcome where
  exitCode := 0
  output := (Language.standard .locator Locator.ofSelector).list.map fun i =>
    s.outputLine (languageLine i)
  errors := recordLines isVerbose Language.registrationRecords
  tree := s.tree

/-- What a new settings file contains. -/
def settingsTemplate : String :=
  "# recgen 設定\n# CLI 引数 > 環境変数 > このファイル の順に優先されます\n"
    ++ "language: robocorp\nlocator_style: locator\nheadless: true\n"
    ++ "screenshot: only-on-failure\n"

/-- The name of a path from the root on. -/
def absolute (s : Setting) (p : Path) : String :=
  (p.names.foldl Path.enter (if p.isAbsolute then ⟨true, []⟩ else s.directory)).toString

/-- Makes a settings file in a directory, unless there is one. -/
def makeSettings (s : Setting) (directory : Path) : Outcome :=
  let file := directory.child "recgen.yaml"
  let failed := fun (tree : Tree) (fault : Files.Fault) =>
    ({ exitCode := 1, errors := [s.errorLine (report fault.message)], tree } : Outcome)
  match s.tree.makeDirectories directory with
  | ⟨tree, some fault⟩ => failed tree fault
  | ⟨tree, none⟩ =>
    if tree.has file then
      { exitCode := 0
        output := [s.outputLine ("設定ファイルは既に存在します: " ++ file.toString)]
        tree }
    else
      match tree.write file (Text.Utf8.encode settingsTemplate.toList) with
      | .error fault => failed tree fault
      | .ok tree =>
        { exitCode := 0
          output := [s.outputLine ("設定ファイルを作成しました: " ++ absolute { s with tree } file)]
          tree }

/-! ## Command lines -/

def answer (s : Setting) (r : Request) : Outcome :=
  match r.task with
  | .generate options => generate r.isVerbose s options
  | .languages => languages r.isVerbose s
  | .makeSettings directory => makeSettings s directory

/-- The run of a command line. A path that cannot be one ends it before it begins. -/
def run (s : Setting) (words : List String) : Outcome :=
  match Request.ofWords? words with
  | none => { exitCode := 2, tree := s.tree }
  | some r =>
    match r.task.paths.find? Path.hasNull with
    | some p => { exitCode := 1, tree := s.tree, escaped := some (.file ⟨.nullCharacter, p⟩) }
    | none => answer s r

/-- Runs one after the other, each in the tree that the one before it left. -/
def runAll (s : Setting) : List (List String) → List Outcome
  | [] => []
  | words :: rest =>
    let o := run s words
    o :: runAll { s with tree := o.tree } rest

end Retrace.Command
