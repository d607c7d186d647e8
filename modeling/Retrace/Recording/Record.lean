import Retrace.Datum.Basic
import Retrace.Recording.Action

/-!
# Entries as data

An entry is written out with all of its fields, those with a default included.
-/

namespace Retrace.Recording

def record (fields : List (String × Datum)) : Datum :=
  .dict (fields.map fun f => (.text f.1, f.2))

def textsDatum (texts : List String) : Datum := .list (texts.map .text)

def optionDatum {α : Type} (f : α → Datum) : Option α → Datum
  | some a => f a
  | none => .none

def Signal.toDatum : Signal → Datum
  | dialog handle => record [("name", .text "dialog"), ("dialogAlias", .text handle)]
  | popup handle => record [("name", .text "popup"), ("popupAlias", .text handle)]
  | download suffix => record [("name", .text "download"), ("downloadAlias", .text suffix)]
  | navigation url => record [("name", .text "navigation"), ("url", .text url)]

def Point.fields (p : Point) : List (String × Datum) := [("x", .double p.x), ("y", .double p.y)]

def Point.toDatum (p : Point) : Datum := record p.fields

def modifiersDatum (modifiers : List Modifier) : Datum := textsDatum (modifiers.map Modifier.name)

def Click.fields (c : Click) : List (String × Datum) :=
  [("selector", .text c.selector), ("button", .text c.button.name),
    ("modifiers", modifiersDatum c.modifiers), ("clickCount", .int c.clickCount),
    ("position", optionDatum Point.toDatum c.position)]

/-- The fields that belong to the operation alone. -/
def Operation.fields : Operation → List (String × Datum)
  | openPage url => [("url", .text url)]
  | closePage => []
  | click c => c.fields
  | check selector => [("selector", .text selector)]
  | uncheck selector => [("selector", .text selector)]
  | fill selector text => [("selector", .text selector), ("text", .text text)]
  | setInputFiles selector files =>
    [("selector", .text selector), ("files", textsDatum files)]
  | press selector key modifiers =>
    [("selector", .text selector), ("key", .text key), ("modifiers", modifiersDatum modifiers)]
  | navigate url => [("url", .text url)]
  | select selector options =>
    [("selector", .text selector), ("options", textsDatum options)]

def signalsDatum (signals : List Signal) : Datum := .list (signals.map Signal.toDatum)

def Action.toDatum (a : Action) : Datum :=
  record ([("name", .text a.operation.kind), ("signals", signalsDatum a.signals)]
    ++ a.operation.fields)

def Frame.fields (f : Frame) : List (String × Datum) :=
  [("pageAlias", .text f.pageAlias), ("isMainFrame", .bool f.isMainFrame),
    ("selectorsChain", textsDatum f.selectorsChain), ("name", optionDatum .text f.name),
    ("url", optionDatum .text f.url)]

def Frame.toDatum (f : Frame) : Datum := record f.fields

def Entry.toDatum (e : Entry) : Datum :=
  record [("frame", e.frame.toDatum), ("action", e.action.toDatum)]

end Retrace.Recording
