import Retrace.Files.Document
import Retrace.Log
import Retrace.Number.Numeral
import Retrace.Script.Call
import Retrace.Settings.Basic
import Retrace.Text.Lower

/-!
# Layers of settings

Settings are taken from a file, then from the environment, then from overrides;
a later layer prevails. What a file or the environment gives is checked: a value
that does not fit is ignored with a warning, and the setting stays as it was.
-/

namespace Retrace.Settings

open Files

inductive Fault where
  | document (path : Path) (cause : Document.Cause)
  | notAMapping (path : Path)
  | unknownField (name : String)
  deriving Repr

def Fault.message : Fault → String
  | .document path cause => cause.report "設定ファイルを読み込めません" path
  | .notAMapping path => "設定ファイルはマッピングである必要があります: " ++ path.toString
  | .unknownField name => "未知の設定項目です: " ++ name

def topic : String := "recgen.config"

/-! ## Choices -/

def locatorStyles : List String := [Script.Style.locator.name, Script.Style.selector.name]

def browsers : List String := ["chromium", "firefox", "webkit"]

/-- The texts that a setting is restricted to. -/
def Field.choices? : Field → Option (List String)
  | .locatorStyle => some locatorStyles
  | .browser => some browsers
  | _ => none

def Field.isSize : Field → Bool
  | .viewportWidth | .viewportHeight => true
  | _ => false

/-- Whether a setting may hold nothing. -/
def Field.isOptional : Field → Bool
  | .channel | .viewportWidth | .viewportHeight | .saveStorage => true
  | _ => false

/-! ## Changes one after the other -/

/-- The settings after all changes, and what there is to say about them. -/
def applyAll {α : Type} (change : α → Settings → Settings × List Log.Record) (s : Settings) :
    List α → Settings × List Log.Record
  | [] => (s, [])
  | a :: rest =>
    let (s, first) := change a s
    let (s, others) := applyAll change s rest
    (s, first ++ others)

/-! ## Files -/

def isPositive : Datum → Bool
  | .int n => 0 < n
  | _ => false

def isBoolean : Datum → Bool
  | .bool _ => true
  | _ => false

/-- Whether a file may give a setting a value. -/
def Field.accepts (f : Field) (value : Datum) : Bool :=
  if value.isNone then f.isOptional
  else
    match f.choices? with
    | some choices => (value.text?.map choices.contains).getD false
    | none =>
      if f = .headless then isBoolean value
      else if f.isSize then isPositive value
      else value.isText

/-- The settings after an entry of a file, and what there is to say about it. -/
def applyEntry (path : Path) (entry : Datum × Datum) (s : Settings) : Settings × List Log.Record :=
  match entry.1.text?.bind Field.ofName? with
  | none => (s, [Log.warning topic ("未知の設定キーを無視しました: " ++ entry.1.plain)])
  | some f =>
    if f.accepts entry.2 then (s.set f entry.2, [])
    else
      (s, [Log.warning topic s!"{path.toString} の {f.name} の値が不正です: {entry.2.shown}"])

def loadedRecord (path : Path) : Log.Record :=
  Log.info topic ("設定ファイルを読み込みました: " ++ path.toString)

/-- The settings after a file's content. An empty file changes nothing. -/
def applyContent (path : Path) (s : Settings) (content : Datum) :
    Except Fault (Settings × List Log.Record) :=
  if content.isNone then .ok (s, [])
  else
    match content.entries? with
    | some entries =>
      let (s, records) := applyAll (applyEntry path) s entries
      .ok (s, records ++ [loadedRecord path])
    | none => .error (.notAMapping path)

def readDocument (t : Tree) (path : Path) : Except Document.Cause Datum := do
  Document.ofYaml (← Document.readText t path)

def applyFile (t : Tree) (path : Path) (s : Settings) :
    Except Fault (Settings × List Log.Record) := do
  applyContent path s (← (readDocument t path).mapError (.document path))

/-! ## The environment -/

abbrev Environment := List (String × String)

/-- The variables, in the order in which they are looked at. -/
def knownVariables : List (String × Field) :=
  [("RECGEN_LANGUAGE", .language), ("RECGEN_LOCATOR_STYLE", .locatorStyle),
    ("RECGEN_HEADLESS", .headless), ("RECGEN_SCREENSHOT", .screenshot),
    ("RECGEN_BROWSER", .browser), ("RECGEN_VIEWPORT_WIDTH", .viewportWidth),
    ("RECGEN_VIEWPORT_HEIGHT", .viewportHeight), ("RECGEN_SAVE_STORAGE", .saveStorage)]

def trueWords : List String := ["true", "1", "yes"]

/-- Every word that does not mean yes means no. -/
def readBoolean (s : String) : Bool := trueWords.contains (String.ofList (Text.lower s.toList))

def readSize (s : String) : Option Int :=
  match Numeral.readInteger s.toList with
  | .ok n => if 0 < n then some n else none
  | .error _ => none

/-- The value that a variable's text gives a setting, if it fits. -/
def Field.read (f : Field) (s : String) : Option Datum :=
  match f.choices? with
  | some choices => if choices.contains s then some (.text s) else none
  | none =>
    if f = .headless then some (.bool (readBoolean s))
    else if f.isSize then (readSize s).map .int
    else some (.text s)

def applyVariable (env : Environment) (v : String × Field) (s : Settings) :
    Settings × List Log.Record :=
  match env.lookup v.1 with
  | none => (s, [])
  | some value =>
    match v.2.read value with
    | some d => (s.set v.2 d, [])
    | none => (s, [Log.warning topic s!"{v.1} の値が不正です: {value}"])

def applyEnvironment (env : Environment) (s : Settings) : Settings × List Log.Record :=
  applyAll (applyVariable env) s knownVariables

/-! ## Overrides -/

abbrev Overrides := List (String × Datum)

/-- Sets what holds something. Of an unknown name on, nothing more is set. -/
def override (s : Settings) : Overrides → Settings × Option Fault
  | [] => (s, none)
  | (name, value) :: rest =>
    match Field.ofName? name with
    | none => (s, some (.unknownField name))
    | some f => override (if value.isNone then s else s.set f value) rest

/-! ## All layers -/

/-- The file that is looked for if none is named. -/
def defaultFile : Path := ⟨false, ["recgen.yaml"]⟩

/-- What was said on the way to settings, or to a fault. -/
structure Outcome where
  result : Except Fault Settings
  records : List Log.Record

def fileToRead (t : Tree) : Option Path → Option Path
  | some path => some path
  | none => if t.has defaultFile then some defaultFile else none

def fromFile (t : Tree) (path : Option Path) : Except Fault (Settings × List Log.Record) :=
  match fileToRead t path with
  | some path => applyFile t path {}
  | none => .ok ({}, [])

def resolve (t : Tree) (env : Environment) (path : Option Path) (overrides : Overrides) :
    Outcome :=
  match fromFile t path with
  | .error fault => ⟨.error fault, []⟩
  | .ok (s, ofFile) =>
    let (s, ofEnvironment) := applyEnvironment env s
    let records := ofFile ++ ofEnvironment
    match override s overrides with
    | (_, some fault) => ⟨.error fault, records⟩
    | (s, none) => ⟨.ok s, records ++ [Log.debug topic ("設定を確定しました: " ++ s.text)]⟩

end Retrace.Settings
