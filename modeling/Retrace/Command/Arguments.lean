import Retrace.Files.Path

/-!
# Command lines

Options may stand among the arguments and give their value with an equals sign,
in the next word, or right behind a single letter; single letters can be joined.
Two dashes end the options. Of an option that is given twice the last one counts.
Before the name of a command there may be options, but no arguments.
-/

namespace Retrace.Command

/-- An option that a command knows. -/
structure Switch where
  long : String
  short : Option Char := none
  hasValue : Bool := false
  deriving DecidableEq, Repr

/-- Options by their long names, with their values, and the other words in order. -/
structure Words where
  options : List (String × String) := []
  arguments : List String := []
  deriving DecidableEq, Repr

/-- What one word settles, and the option whose value is the next word. -/
structure Step where
  settled : List (String × String)
  waiting : Option String
  deriving DecidableEq, Repr

/-- Single letters; one with a value takes the letters behind it. -/
def readLetters (switches : List Switch) : List Char → Option Step
  | [] => some ⟨[], none⟩
  | c :: rest =>
    match switches.find? fun s => s.short == some c with
    | none => none
    | some s =>
      if s.hasValue then
        if rest = [] then some ⟨[], some s.long⟩
        else some ⟨[(s.long, String.ofList rest)], none⟩
      else (readLetters switches rest).map fun step =>
        { step with settled := (s.long, "") :: step.settled }

/-- A word that begins with a dash. -/
def readOption (switches : List Switch) (word : List Char) : Option Step :=
  let name := word.takeWhile (· != '=')
  let value := (word.dropWhile (· != '=')).drop 1
  let hasEquals := word.contains '='
  match switches.find? fun s => s.long.toList == name with
  | some s =>
    if s.hasValue then
      some (if hasEquals then ⟨[(s.long, String.ofList value)], none⟩ else ⟨[], some s.long⟩)
    else if hasEquals then none
    else some ⟨[(s.long, "")], none⟩
  | none =>
    match word with
    | '-' :: '-' :: _ => none
    | _ => readLetters switches (word.drop 1)

def isOption (word : List Char) : Bool := word.head? = some '-' && word.length ≠ 1

def Words.withOptions (settled : List (String × String)) (w : Words) : Words :=
  { w with options := settled ++ w.options }

/-- Takes words apart; `isMixed` says whether options may come after arguments. -/
def readWords (switches : List Switch) (isMixed : Bool) : List String → Option Words
  | [] => some {}
  | word :: rest =>
    if word = "--" then some ⟨[], rest⟩
    else if isOption word.toList then
      match readOption switches word.toList, rest with
      | some ⟨settled, none⟩, rest =>
        (readWords switches isMixed rest).map (Words.withOptions settled)
      | some ⟨settled, some name⟩, value :: rest =>
        (readWords switches isMixed rest).map (Words.withOptions (settled ++ [(name, value)]))
      | _, _ => none
    else if isMixed then
      (readWords switches isMixed rest).map fun w =>
        { w with arguments := word :: w.arguments }
    else some ⟨[], word :: rest⟩

def Words.get? (w : Words) (name : String) : Option String := w.options.reverse.lookup name

def Words.has (w : Words) (name : String) : Bool := (w.get? name).isSome

/-! ## Tasks -/

structure Generate where
  recording : Files.Path
  output : Option Files.Path := none
  language : Option String := none
  locatorStyle : Option String := none
  saveStorage : Option String := none
  headed : Bool := false
  settings : Option Files.Path := none
  deriving DecidableEq, Repr

/-- What a command line can ask for. -/
inductive Task where
  | generate (options : Generate)
  | languages
  | makeSettings (directory : Files.Path)
  deriving DecidableEq, Repr

/-- The paths that a task is given. -/
def Task.paths : Task → List Files.Path
  | generate o => o.recording :: o.output.toList ++ o.settings.toList
  | languages => []
  | makeSettings directory => [directory]

structure Request where
  isVerbose : Bool
  task : Task
  deriving DecidableEq, Repr

def commonSwitches : List Switch := [⟨"--verbose", some 'v', false⟩]

def generateSwitches : List Switch :=
  [⟨"--output", some 'o', true⟩, ⟨"--language", some 'l', true⟩,
    ⟨"--locator-style", none, true⟩, ⟨"--save-storage", none, true⟩,
    ⟨"--headed", none, false⟩, ⟨"--config", some 'c', true⟩]

def Generate.ofWords (w : Words) : Option Generate :=
  match w.arguments with
  | [recording] => some {
      recording := .ofString recording
      output := (w.get? "--output").map .ofString
      language := w.get? "--language"
      locatorStyle := w.get? "--locator-style"
      saveStorage := w.get? "--save-storage"
      headed := w.has "--headed"
      settings := (w.get? "--config").map .ofString }
  | _ => none

def Task.ofWords (name : String) (words : List String) : Option Task :=
  match name with
  | "generate" => do Task.generate <$> Generate.ofWords (← readWords generateSwitches true words)
  | "languages" => do
    let w ← readWords [] true words
    if w.arguments = [] then some .languages else none
  | "init" => do
    match (← readWords [] true words).arguments with
    | [] => some (.makeSettings {})
    | [directory] => some (.makeSettings (.ofString directory))
    | _ => none
  | _ => none

/-- The request of a command line, if it is one. -/
def Request.ofWords? (words : List String) : Option Request := do
  let w ← readWords commonSwitches false words
  match w.arguments with
  | [] => none
  | name :: rest => return ⟨w.has "--verbose", ← Task.ofWords name rest⟩

end Retrace.Command
