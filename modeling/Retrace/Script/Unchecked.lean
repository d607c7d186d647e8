import Retrace.Datum.Order
import Retrace.Script.Fragment

/-!
# Actions that nobody has checked

An action may also be put together from data as they are. It has the fields of
its kind, those left out with their defaults, and nothing is known about their
values: what should be a text is quoted loosely, and each use of a value that
does not fit has a fault of its own. An action of an unknown kind has a name and
signals only.
-/

namespace Retrace.Script

open Recording

structure Unchecked where
  name : Option Datum
  fields : List (String × Datum)
  deriving Repr

namespace Unchecked

/-- The fields of a kind, with the defaults of those that have one. -/
def schema : String → List (String × Option Datum)
  | "openPage" => [("url", some (.text ""))]
  | "click" =>
    [("selector", none), ("button", some (.text "left")), ("modifiers", some (.list [])),
      ("clickCount", some (.int 1)), ("position", some .none)]
  | "check" | "uncheck" => [("selector", none)]
  | "fill" => [("selector", none), ("text", none)]
  | "setInputFiles" => [("selector", none), ("files", some (.list []))]
  | "press" => [("selector", none), ("key", none), ("modifiers", some (.list []))]
  | "navigate" => [("url", none)]
  | "select" => [("selector", none), ("options", some (.list []))]
  | _ => []

def ofDatum (d : Datum) : Unchecked :=
  let name := d.field? "name"
  let own := schema ((name.bind Datum.text?).getD "")
  ⟨name, (("signals", some (Datum.list [])) :: own).filterMap fun f =>
    ((d.field? f.1).orElse fun _ => f.2).map (f.1, ·)⟩

/-- The name of the kind of object an action is. -/
def objectName (u : Unchecked) : String :=
  match u.name.bind Datum.text? with
  | some kind =>
    if kinds.contains kind then
      match kind.toList with
      | c :: rest => String.ofList (c.toUpper :: rest) ++ "Action"
      | [] => "ActionBase"
    else "ActionBase"
  | none => "ActionBase"

def getName (u : Unchecked) : Except Fault Datum :=
  match u.name with
  | some d => .ok d
  | none => .error (.noAttribute u.objectName "name")

def get [Text.View] (u : Unchecked) (field : String) : Except Fault Datum :=
  match u.fields.lookup field with
  | some d => .ok d.viewed
  | none => .error (.noAttribute u.objectName field)

/-! ## Values put to use -/

def quoted [Text.View] (d : Datum) : Except Fault (List Char) :=
  (Literal.quoteLoosely d).mapError .ofJson

/-- A selector as the text that an adapter reads. What has no items is empty; anything
else that is no text fails where its first item is looked at. -/
def selectorText (d : Datum) : Except Fault (List Char) :=
  match d with
  | .text s => .ok s.toList
  | .list [] | .tuple [] | .set [] | .dict [] | .bytes [] => .ok []
  | .list _ | .tuple _ => .error (.noAttribute d.kindName "startswith")
  | .dict entries =>
    if entries.any fun e => e.1.same (.int 0) then .error (.noAttribute d.kindName "startswith")
    else .error (.noKey (.int 0))
  | .set _ => .error (.notSubscriptable d.kindName)
  | .bytes _ => .error .notBytes
  | d => .error (.noLength d.kindName)

/-- White space as bytes know it. -/
def isBlankByte (b : UInt8) : Bool := b = 0x20 || (0x09 ≤ b && b ≤ 0x0d)

/-- The nodes for a page whose address is any datum. Bytes can be stripped, but
not be written. -/
def openPageNodes (page : List Char) (url : Datum) : Except Fault (List Outline.Node) :=
  match url with
  | .text s => .ok (Script.openPageNodes page s)
  | .bytes bs => if bs.all isBlankByte then .ok [] else .error (.notJson url.kindName)
  | d => .error (.noAttribute d.kindName "strip")

/-- The items of something that can be gone through. -/
def itemsOf : Datum → Except Fault (List Datum)
  | .list items | .tuple items | .set items => .ok items
  | .text s => .ok (s.toList.map fun c => .text (String.ofList [c]))
  | .dict entries => .ok (entries.map (·.1))
  | .bytes bs => .ok (bs.map fun b => .int b.toNat)
  | d => .error (.notIterable d.kindName)

/-- The only item of something that has one, otherwise the whole. -/
def soleItem (d : Datum) : Except Fault Datum :=
  match d with
  | .list [item] | .tuple [item] => .ok item
  | .list _ | .tuple _ => .ok d
  | .text s => .ok (match s.toList with
    | [c] => .text (String.ofList [c])
    | _ => d)
  | .bytes bs => .ok (match bs with
    | [b] => .int b.toNat
    | _ => d)
  | .dict entries =>
    match entries with
    | [(key, value)] => if key.same (.int 0) then .ok value else .error (.noKey (.int 0))
    | _ => .ok d
  | .set items => if items.length = 1 then .error (.notSubscriptable d.kindName) else .ok d
  | d => .error (.noLength d.kindName)

def isDifferentText (d : Datum) (s : String) : Bool := d.text? != some s

/-! ## Calls -/

/-- A call whose element is found by any datum. -/
structure ElementCall where
  selector : Datum
  method : String
  arguments : List Char

def ElementCall.write [Text.View] (style : Style) (adapter : Adapter) (c : ElementCall) :
    Except Fault (List Char) :=
  match style with
  | .selector => do
    let selector ← quoted c.selector
    let rest := if c.arguments = [] then [] else ',' :: ' ' :: c.arguments
    return c.method.toList ++ '(' :: selector ++ rest ++ [')']
  | .locator => do
    let selector ← selectorText c.selector
    let locator ← (adapter selector).mapError .locator
    return locator ++ '.' :: c.method.toList ++ '(' :: c.arguments ++ [')']

def clickCall [Text.View] (u : Unchecked) : Except Fault ElementCall := do
  let count ← u.get "clickCount"
  let method := if count.same (.int 2) then "dblclick" else "click"
  let button ← u.get "button"
  let options := if isDifferentText button "left" then [("button", button)] else []
  let modifiers ← u.get "modifiers"
  let options ←
    if modifiers.isTruthy then do
      pure (options ++ [("modifiers", .list (← itemsOf modifiers))])
    else pure options
  let many ← (Datum.less (.int 2) count).mapError fun p => .unordered p.right p.left
  let options := if many then options ++ [("clickCount", count)] else options
  let position ← u.get "position"
  if !position.isNone then throw (.noAttribute position.kindName "model_dump")
  let selector ← u.get "selector"
  return ⟨selector, method, ← writeOptions options⟩

/-- The keys that are held down. -/
def heldKeys [Text.View] (u : Unchecked) : Except Fault (List Datum) := do
  match itemsOf (← u.get "modifiers") with
  | .error (.notIterable kind) => throw (.notSpreadable kind)
  | keys => keys

def pressCall [Text.View] (u : Unchecked) : Except Fault ElementCall := do
  let keys := (← u.heldKeys) ++ [← u.get "key"]
  match Modifier.firstNonText 0 keys with
  | some (position, kind) => throw (.notText position kind)
  | none =>
    let names := keys.filterMap fun key => key.viewed.text?.map String.toList
    return ⟨← u.get "selector", "press", Literal.quote (['+'].intercalate names)⟩

/-- A call with the field's only item, or with all of it. -/
def itemsCall [Text.View] (u : Unchecked) (method field : String) : Except Fault ElementCall := do
  let items ← soleItem (← u.get field)
  return ⟨← u.get "selector", method, ← literal items⟩

/-- The call on an element, for the kinds of operations that have one. -/
def elementCall? [Text.View] (u : Unchecked) : Datum → Option (Except Fault ElementCall)
  | .text "click" => some u.clickCall
  | .text "check" => some do return ⟨← u.get "selector", "check", []⟩
  | .text "uncheck" => some do return ⟨← u.get "selector", "uncheck", []⟩
  | .text "fill" => some do return ⟨← u.get "selector", "fill", ← quoted (← u.get "text")⟩
  | .text "setInputFiles" => some (u.itemsCall "set_input_files" "files")
  | .text "press" => some u.pressCall
  | .text "select" => some (u.itemsCall "select_option" "options")
  | _ => none

/-- The method call of an action. -/
def write [Text.View] (style : Style) (adapter : Adapter) (u : Unchecked) :
    Except Fault (List Char) := do
  let name ← u.getName
  match u.elementCall? name, name with
  | some call, _ => (← call).write style adapter
  | none, .text "openPage" => throw .notACall
  | none, .text "closePage" => return "close()".toList
  | none, .text "navigate" => return "goto(".toList ++ (← quoted (← u.get "url")) ++ [')']
  | none, _ => throw (.unsupportedAction name none)

/-! ## Fragments -/

/-- Data are never signals. -/
def effects [Text.View] (u : Unchecked) : Except Fault Effects := do
  match ← itemsOf (← u.get "signals") with
  | [] => return {}
  | item :: _ => throw (.noAttribute item.kindName "name")

def isNavigation (u : Unchecked) : Bool :=
  match u.name with
  | some (.text s) => s == "navigate"
  | _ => false

/-- What the method is called on. The name is looked at only for a frame inside others. -/
def subject (frame : Frame) (u : Unchecked) : Except Fault (List Char) :=
  if !frame.isMainFrame && frame.selectorsChain ≠ [] && u.name.isNone then
    .error (.noAttribute u.objectName "name")
  else Script.subject frame u.isNavigation

def nodes [Text.View] (style : Style) (adapter : Adapter) (frame : Frame) (u : Unchecked) :
    Except Fault (List Outline.Node) := do
  let page := frame.pageAlias.toList
  match ← u.getName with
  | .text "openPage" => openPageNodes page (← u.get "url")
  | _ => do
    let subject ← u.subject frame
    let call ← u.write style adapter
    let effects ← u.effects
    return withEffects page effects (subject ++ '.' :: call)

def fragment [Text.View] (style : Style) (adapter : Adapter) (frame : Frame) (u : Unchecked) :
    Except Fault (List Char) :=
  Outline.textOf bodyOffset <$> u.nodes style adapter frame

end Unchecked

end Retrace.Script
