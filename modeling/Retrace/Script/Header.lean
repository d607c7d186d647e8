import Retrace.Log
import Retrace.Script.Fragment
import Retrace.Script.Options

/-!
# The frame of a script

The header opens the function in whose body the fragments stand, and the footer
ends it. Options are data, written as literals; what holds nothing is left out.
For task scripts a browser channel takes the place of the engine, which is
possible for one family of engines only.
-/

namespace Retrace.Script

open Outline

inductive Language where
  | robocorp
  | python
  deriving DecidableEq, Repr

def Language.all : List Language := [.robocorp, .python]

def line (s : String) : Node := .line s.toList

/-! ## Task scripts -/

/-- The engine that the browser is configured with. -/
def browserEngine (o : Options) : Datum :=
  if o.browserName.text? = some "chromium" then o.channel else o.browserName

/-- A channel that the engine cannot have is left out, which is worth a warning. -/
def ignoresChannel (o : Options) : Bool :=
  o.browserName.text? != some "chromium" && o.channel.isTruthy

def headerWarnings : Language → Options → List Log.Record
  | .robocorp, o =>
    if ignoresChannel o then
      [Log.warning "recgen.languages.robocorp"
        s!"チャンネル {o.channel.plain} は {o.browserName.plain} では使用できないため無視しました"]
    else []
  | .python, _ => []

def configureOptions (o : Options) : Literal.Options :=
  [("browserEngine", browserEngine o), ("headless", o.headless), ("screenshot", o.screenshot),
    ("viewportSize", o.viewport)]

def templateBefore : List String :=
  ["import re",
    "from robocorp.tasks import task",
    "from robocorp import browser",
    "",
    "def init_browser(): \x7b",
    "# Configure may be used to set the basic robocorp.browser settings.",
    "# It must be called prior to calling APIs which create playwright objects.",
    "browser.configure( \x7b"]

def templateAfter : List String :=
  ["\x7d",
    ")",
    "\x7d",
    "",
    "@task",
    "def automate(): \x7b",
    "init_browser()",
    "# APIs in robocorp.browser return the same browser instance, which is",
    "# automatically closed when the task finishes.",
    "page = browser.page()",
    "# --------------------- Generated Code:"]

/-- The template around the options, one option on a line. -/
def taskTemplate (options : List Char) : List Char :=
  Text.joinLines (templateBefore.map String.toList ++ [options ++ [',']]
    ++ templateAfter.map String.toList)

def taskHeader [Text.View] (o : Options) : Except Fault (List Char) := do
  let layout : Literal.Options.Layout := { separator := [',', '\n'] }
  let options ← ((configureOptions o).write layout).mapError .ofLiteral
  match (({} : Draft).add (taskTemplate options)).text? with
  | some s => return s
  | none => throw .unmatchedBlock

def storageLine (context : String) (path : String) : Node :=
  .line (context.toList ++ ".storage_state(path=".toList ++ Literal.quote path.toList ++ [')'])

/-- The line that saves the state, if there is a path to save it under. -/
def storageNodes (context : String) (saveStorage : Option String) : List Node :=
  (usable? saveStorage).toList.map (storageLine context)

def endMark : Node := line "# ---------------------"

def taskFooter (saveStorage : Option String) : List Char :=
  textOf bodyOffset (line "" :: storageNodes "browser.context()" saveStorage ++ [endMark])

/-! ## Scripts that run by themselves -/

/-- The two items of a pair, given as anything that has items. -/
def pairOf : Datum → Except Fault (Datum × Datum)
  | .list items | .tuple items | .set items => ofItems items
  | .text s => ofItems (s.toList.map fun c => .text (String.ofList [c]))
  | .brokenText points => ofItems (points.map fun n => .ofPoints [n])
  | .dict entries => ofItems (entries.map (·.1))
  | .bytes bs => ofItems (bs.map fun b => .int b.toNat)
  | d => .error (.notUnpackable d.kindName)
where
  ofItems : List Datum → Except Fault (Datum × Datum)
    | [width, height] => .ok (width, height)
    | [] => .error (.tooFewItems 2 0)
    | [_] => .error (.tooFewItems 2 1)
    | _ => .error (.tooManyItems 2)

def launchOptions (o : Options) : Literal.Options :=
  [("channel", o.channel), ("headless", o.headless)]

def contextOptions (o : Options) : Except Fault Literal.Options :=
  if o.viewport.isNone then .ok []
  else do
    let (width, height) ← pairOf o.viewport
    return [("viewport", .dict [(.text "width", width), (.text "height", height)])]

def runHeader [Text.View] (o : Options) : Except Fault (List Char) := do
  let launch ← writeOptions (launchOptions o)
  let context ← writeOptions (← contextOptions o)
  return textOf 0
    [line "import re",
      line "from playwright.sync_api import Playwright, sync_playwright, expect",
      line "",
      line "",
      .block "def run(playwright: Playwright) -> None:".toList
        [.line ("browser = playwright.".toList ++ o.browserName.viewed.plain.toList
            ++ ".launch(".toList ++ launch ++ [')']),
          .line ("context = browser.new_context(".toList ++ context ++ [')']),
          line "page = context.new_page()"]]

def runFooter (saveStorage : Option String) : List Char :=
  textOf bodyOffset
      (line "" :: endMark :: storageNodes "context" saveStorage
        ++ [line "context.close()", line "browser.close()"])
    ++ '\n' :: textOf 0
      [line "", line "",
        .block "with sync_playwright() as playwright:".toList [line "run(playwright)"]]
    ++ ['\n']

def header [Text.View] : Language → Options → Except Fault (List Char)
  | .robocorp => taskHeader
  | .python => runHeader

def footer : Language → Option String → List Char
  | .robocorp => taskFooter
  | .python => runFooter

end Retrace.Script
