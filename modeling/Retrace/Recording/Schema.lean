import Retrace.Recording.Action
import Retrace.Recording.Scalar

/-!
# The schema of a recording

Each part of an entry is a dictionary with named fields. A field may be
required or have a default; fields that the schema does not know are ignored.
Signals and operations are told apart by their names, which also stand in the
place of a violation inside them.
-/

namespace Retrace.Recording

open Checked

/-- A dictionary's entries. -/
abbrev Fields := List (Datum × Datum)

def lookup (fields : Fields) (name : String) : Option Datum := (Datum.dict fields).field? name

def required {α : Type} (name : String) (check : Datum → Checked α) (fields : Fields) :
    Checked α :=
  match lookup fields name with
  | some d => (check d).within name
  | none => (reject .missing).within name

def withDefault {α : Type} (name : String) (default : α) (check : Datum → Checked α)
    (fields : Fields) : Checked α :=
  match lookup fields name with
  | some d => (check d).within name
  | none => accepted default

/-- A name that may be left out, but not be another one. -/
def ownName (name : String) : Fields → Checked Unit :=
  withDefault "name" () (checkChoice [(name, ())])

def checkModel {α : Type} (model : String) (check : Fields → Checked α) (d : Datum) :
    Checked α :=
  match d.entries? with
  | some fields => check fields
  | none => reject (.notModel model)

/-- The check whose tag is the value of the field `name`. -/
def checkTagged {α : Type} (checks : List (String × (Fields → Checked α))) (d : Datum) :
    Checked α :=
  match d.entries? with
  | some fields =>
    match lookup fields "name" with
    | none => reject .noTag
    | some tag =>
      match checks.find? fun c => tag.text? == some c.1 with
      | some c => (c.2 fields).within c.1
      | none => reject (.unknownTag tag.lossy (checks.map (·.1)))
  | none => reject .notFields

/-! ## Signals -/

def dialogSignal (fields : Fields) : Checked Signal :=
  ownName "dialog" fields *> Signal.dialog <$> withDefault "dialogAlias" "" checkText fields

def popupSignal (fields : Fields) : Checked Signal :=
  ownName "popup" fields *> Signal.popup <$> required "popupAlias" checkText fields

def downloadSignal (fields : Fields) : Checked Signal :=
  ownName "download" fields *> Signal.download <$> withDefault "downloadAlias" "" checkText fields

def navigationSignal (fields : Fields) : Checked Signal :=
  ownName "navigation" fields *> Signal.navigation <$> withDefault "url" "" checkText fields

def checkSignal : Datum → Checked Signal :=
  checkTagged [("dialog", dialogSignal), ("popup", popupSignal), ("download", downloadSignal),
    ("navigation", navigationSignal)]

/-! ## Operations -/

def checkPoint : Datum → Checked Point :=
  checkModel "Point" fun fields =>
    Point.mk <$> required "x" checkNumber fields <*> required "y" checkNumber fields

def checkButton : Datum → Checked Button := checkChoice (Button.all.map fun b => (b.name, b))

def checkModifiers (d : Datum) : Checked (List Modifier) :=
  match Modifier.ofDatum d with
  | .ok modifiers => accepted modifiers
  | .error (.unknown names) => reject (.unknownModifiers names)
  | .error fault => broken fault

def textField (name : String) : Fields → Checked String := required name checkText

def textsField (name : String) : Fields → Checked (List String) :=
  withDefault name [] (checkList checkText)

def modifiersField : Fields → Checked (List Modifier) :=
  withDefault "modifiers" [] checkModifiers

def checkClick (fields : Fields) : Checked Click :=
  Click.mk <$> textField "selector" fields
    <*> withDefault "button" .left checkButton fields
    <*> modifiersField fields
    <*> withDefault "clickCount" 1 (checkAtLeast 1) fields
    <*> withDefault "position" none (checkOption checkPoint) fields

/-- The fields of an operation of its own, by the operation's name. -/
def operations : List (String × (Fields → Checked Operation)) :=
  [("openPage", fun fields => .openPage <$> withDefault "url" "" checkText fields),
    ("closePage", fun _ => accepted .closePage),
    ("click", fun fields => .click <$> checkClick fields),
    ("check", fun fields => .check <$> textField "selector" fields),
    ("uncheck", fun fields => .uncheck <$> textField "selector" fields),
    ("fill", fun fields =>
      .fill <$> textField "selector" fields <*> textField "text" fields),
    ("setInputFiles", fun fields =>
      .setInputFiles <$> textField "selector" fields <*> textsField "files" fields),
    ("press", fun fields =>
      .press <$> textField "selector" fields <*> textField "key" fields
        <*> modifiersField fields),
    ("navigate", fun fields => .navigate <$> textField "url" fields),
    ("select", fun fields =>
      .select <$> textField "selector" fields <*> textsField "options" fields)]

/-- The fields that all actions have, before those of the operation. -/
def checkFields (name : String) (operation : Fields → Checked Operation) (fields : Fields) :
    Checked Action :=
  (fun (_ : Unit) signals operation => Action.mk operation signals) <$> ownName name fields
    <*> withDefault "signals" [] (checkList checkSignal) fields
    <*> operation fields

def actions : List (String × (Fields → Checked Action)) :=
  operations.map fun o => (o.1, checkFields o.1 o.2)

def checkAction : Datum → Checked Action := checkTagged actions

/-! ## Entries -/

def checkFrameFields (fields : Fields) : Checked Frame :=
  Frame.mk <$> required "pageAlias" checkText fields
    <*> withDefault "isMainFrame" true checkBoolean fields
    <*> withDefault "selectorsChain" [] (checkList checkText) fields
    <*> withDefault "name" none (checkOption checkText) fields
    <*> withDefault "url" none (checkOption checkText) fields

def checkFrame : Datum → Checked Frame := checkModel "FrameDescription" checkFrameFields

def checkEntryFields (fields : Fields) : Checked Entry :=
  Entry.mk <$> required "frame" checkFrame fields <*> required "action" checkAction fields

def checkEntry : Datum → Checked Entry := checkModel "ActionInContext" checkEntryFields

theorem actions_map_fst : actions.map (·.1) = kinds := by
  simp [actions, operations, kinds]

end Retrace.Recording
