import Retrace.Script.Options

/-!
# Settings

What a script is generated with. Every setting has a name and a default, and all
of them are data: the layers that set them check what they set, but a caller may
set anything.
-/

namespace Retrace

inductive Settings.Field where
  | language
  | locatorStyle
  | headless
  | screenshot
  | browser
  | channel
  | viewportWidth
  | viewportHeight
  | saveStorage
  deriving DecidableEq, Repr

structure Settings where
  language : Datum := .text "robocorp"
  locatorStyle : Datum := .text "locator"
  headless : Datum := .bool true
  screenshot : Datum := .text "only-on-failure"
  browser : Datum := .text "chromium"
  channel : Datum := .none
  viewportWidth : Datum := .none
  viewportHeight : Datum := .none
  saveStorage : Datum := .none
  deriving Repr

namespace Settings

namespace Field

def all : List Field :=
  [language, locatorStyle, headless, screenshot, browser, channel, viewportWidth,
    viewportHeight, saveStorage]

def name : Field → String
  | language => "language"
  | locatorStyle => "locator_style"
  | headless => "headless"
  | screenshot => "screenshot"
  | browser => "browser"
  | channel => "channel"
  | viewportWidth => "viewport_width"
  | viewportHeight => "viewport_height"
  | saveStorage => "save_storage"

def ofName? (s : String) : Option Field := all.find? fun f => f.name == s

@[simp] theorem ofName?_name (f : Field) : ofName? f.name = some f := by
  cases f <;> decide

theorem mem_all (f : Field) : f ∈ all := by
  cases f <;> decide

end Field

def get (s : Settings) : Field → Datum
  | .language => s.language
  | .locatorStyle => s.locatorStyle
  | .headless => s.headless
  | .screenshot => s.screenshot
  | .browser => s.browser
  | .channel => s.channel
  | .viewportWidth => s.viewportWidth
  | .viewportHeight => s.viewportHeight
  | .saveStorage => s.saveStorage

def set (s : Settings) (f : Field) (value : Datum) : Settings :=
  match f with
  | .language => { s with language := value }
  | .locatorStyle => { s with locatorStyle := value }
  | .headless => { s with headless := value }
  | .screenshot => { s with screenshot := value }
  | .browser => { s with browser := value }
  | .channel => { s with channel := value }
  | .viewportWidth => { s with viewportWidth := value }
  | .viewportHeight => { s with viewportHeight := value }
  | .saveStorage => { s with saveStorage := value }

@[simp] theorem get_set_same (s : Settings) (f : Field) (value : Datum) :
    (s.set f value).get f = value := by
  cases f <;> rfl

theorem get_set_other (s : Settings) {f g : Field} (value : Datum) (h : g ≠ f) :
    (s.set f value).get g = s.get g := by
  cases f <;> cases g <;> first | rfl | exact absurd rfl h

/-- All settings under their names. -/
def fields (s : Settings) : List (String × Datum) := Field.all.map fun f => (f.name, s.get f)

def text (s : Settings) : String :=
  "GeneratorConfig(" ++ ", ".intercalate (s.fields.map fun f => f.1 ++ "=" ++ f.2.shown) ++ ")"

/-- The width and the height, if both are set. -/
def viewport (s : Settings) : Datum :=
  if s.viewportWidth.isNone || s.viewportHeight.isNone then .none
  else .tuple [s.viewportWidth, s.viewportHeight]

def headerOptions (s : Settings) : Script.Options where
  browserName := s.browser
  channel := s.channel
  headless := s.headless
  screenshot := s.screenshot
  viewport := s.viewport

end Settings

end Retrace
