import Retrace.Recording.Record
import Retrace.Recording.Schema

/-!
# The models of the schema

Each part of an entry can be checked by itself, under its model's name; the
accepted value comes with all of its fields. An instance never changes: setting
a field is a violation, whatever the value.
-/

namespace Retrace.Recording

open Checked

/-- An action of any name, with the fields that all actions have. -/
def checkBase (fields : Fields) : Checked Datum :=
  (fun name signals => record [("name", .text name), ("signals", signalsDatum signals)])
    <$> textField "name" fields
    <*> withDefault "signals" [] (checkList checkSignal) fields

def signalModels : List (String × (Fields → Checked Datum)) :=
  [("DialogSignal", dialogSignal), ("PopupSignal", popupSignal),
    ("DownloadSignal", downloadSignal), ("NavigationSignal", navigationSignal)].map fun m =>
      (m.1, fun fields => Signal.toDatum <$> m.2 fields)

/-- An operation's name with a capital, and what it is. -/
def actionModelName (kind : String) : String :=
  (match kind.toList with
    | c :: rest => String.ofList (c.toUpper :: rest)
    | [] => "") ++ "Action"

def actionModels : List (String × (Fields → Checked Datum)) :=
  actions.map fun a => (actionModelName a.1, fun fields => Action.toDatum <$> a.2 fields)

def models : List (String × (Fields → Checked Datum)) :=
  signalModels ++ actionModels
    ++ [("ActionBase", checkBase),
      ("Point", fun fields => Point.toDatum <$> checkPoint (.dict fields)),
      ("FrameDescription", fun fields => Frame.toDatum <$> checkFrameFields fields),
      ("ActionInContext", fun fields => Entry.toDatum <$> checkEntryFields fields)]

def checkNamed (model : String) (d : Datum) : Option (Checked Datum) :=
  (models.find? fun m => m.1 == model).map fun m => checkModel m.1 m.2 d

/-- Setting a field of an instance. -/
def assign (field : String) : Checked Datum := (reject .frozen).within field

end Retrace.Recording
