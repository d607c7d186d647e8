import Retrace.Number.Double
import Retrace.Recording.Modifier

/-!
# Recorded actions

An entry of a recording is one operation in one frame. Signals tell what the
operation set off: a dialog, a new page, a download or a navigation.
-/

namespace Retrace.Recording

inductive Signal where
  | dialog (handle : String)
  | popup (handle : String)
  | download (suffix : String)
  | navigation (url : String)
  deriving DecidableEq, Repr

structure Point where
  x : Double
  y : Double
  deriving DecidableEq, Repr

inductive Button where
  | left
  | middle
  | right
  deriving DecidableEq, Repr

structure Click where
  selector : String
  button : Button
  modifiers : List Modifier
  clickCount : Nat
  position : Option Point
  deriving DecidableEq, Repr

inductive Operation where
  | openPage (url : String)
  | closePage
  | click (click : Click)
  | check (selector : String)
  | uncheck (selector : String)
  | fill (selector text : String)
  | setInputFiles (selector : String) (files : List String)
  | press (selector key : String) (modifiers : List Modifier)
  | navigate (url : String)
  | select (selector : String) (options : List String)
  deriving DecidableEq, Repr

structure Action where
  operation : Operation
  signals : List Signal
  deriving DecidableEq, Repr

structure Frame where
  pageAlias : String
  isMainFrame : Bool
  selectorsChain : List String
  name : Option String
  url : Option String
  deriving DecidableEq, Repr

structure Entry where
  frame : Frame
  action : Action
  deriving DecidableEq, Repr

def Button.name : Button → String
  | left => "left"
  | middle => "middle"
  | right => "right"

def Button.all : List Button := [.left, .middle, .right]

def Operation.kind : Operation → String
  | openPage .. => "openPage"
  | closePage => "closePage"
  | click .. => "click"
  | check .. => "check"
  | uncheck .. => "uncheck"
  | fill .. => "fill"
  | setInputFiles .. => "setInputFiles"
  | press .. => "press"
  | navigate .. => "navigate"
  | select .. => "select"

/-- The kinds of operations there are. -/
def kinds : List String :=
  ["openPage", "closePage", "click", "check", "uncheck", "fill", "setInputFiles", "press",
    "navigate", "select"]

/-- What an operation set off, as far as a script can wait for it. -/
structure Effects where
  dialog : Option String := none
  popup : Option String := none
  download : Option String := none
  deriving DecidableEq, Repr

def Signal.dialog? : Signal → Option String
  | dialog handle => some handle
  | _ => none

def Signal.popup? : Signal → Option String
  | popup handle => some handle
  | _ => none

def Signal.download? : Signal → Option String
  | download suffix => some suffix
  | _ => none

/-- Of each kind the first signal counts; navigations need no waiting. -/
def Effects.ofSignals (signals : List Signal) : Effects where
  dialog := signals.findSome? Signal.dialog?
  popup := signals.findSome? Signal.popup?
  download := signals.findSome? Signal.download?

end Retrace.Recording
