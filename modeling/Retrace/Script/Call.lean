import Retrace.Script.Fault

/-!
# Method calls

An operation becomes one method call. Its arguments do not depend on how the
element is found: either the selector is the first argument, or it is converted
to a locator on which the method is called. An adapter does the conversion and
is asked only in the second case, after the arguments.
-/

namespace Retrace.Script

open Recording

inductive Style where
  | locator
  | selector
  deriving DecidableEq, Repr

def Style.name : Style → String
  | locator => "locator"
  | selector => "selector"

def Style.ofName? (s : String) : Option Style :=
  [Style.locator, Style.selector].find? fun style => style.name == s

/-- Gives the locator expressions of selectors. -/
abbrev Adapter := List Char → Except Locator.ValueFault (List Char)

/-- A method call, on an element if there is a selector. -/
structure Call where
  selector : Option (List Char)
  method : List Char
  arguments : List Char
  deriving DecidableEq, Repr

def onElement (selector : String) (method : String) (arguments : List Char) : Call :=
  ⟨some selector.toList, method.toList, arguments⟩

/-- The arguments of a call whose first one is the selector. -/
def withSelector (selector arguments : List Char) : List Char :=
  Literal.quote selector ++ if arguments = [] then [] else ',' :: ' ' :: arguments

def Call.write (style : Style) (adapter : Adapter) (c : Call) : Except Fault (List Char) :=
  match c.selector, style with
  | none, _ => .ok (c.method ++ '(' :: c.arguments ++ [')'])
  | some selector, .selector =>
    .ok (c.method ++ '(' :: withSelector selector c.arguments ++ [')'])
  | some selector, .locator => do
    let locator ← (adapter selector).mapError .locator
    return locator ++ '.' :: c.method ++ '(' :: c.arguments ++ [')']

/-! ## The calls of the operations -/

/-- Only what differs from an ordinary click is an option. -/
def clickOptions (c : Click) : Literal.Options :=
  (if c.button = .left then [] else [("button", .text c.button.name)])
    ++ (if c.modifiers = [] then [] else [("modifiers", modifiersDatum c.modifiers)])
    ++ (if 2 < c.clickCount then [("clickCount", .int c.clickCount)] else [])
    ++ (match c.position with
      | some p => [("position", p.toDatum)]
      | none => [])

def clickMethod (clickCount : Int) : String := if clickCount = 2 then "dblclick" else "click"

/-- A single text stands alone, several are a list. -/
def oneOrMany : List String → Datum
  | [s] => .text s
  | texts => textsDatum texts

def shortcut (modifiers : List Modifier) (key : String) : List Char :=
  ['+'].intercalate ((modifiers.map fun m => m.name.toList) ++ [key.toList])

def literal [Text.View] (d : Datum) : Except Fault (List Char) :=
  (Literal.ofDatum d).mapError .ofLiteral

def writeOptions [Text.View] (options : Literal.Options) : Except Fault (List Char) :=
  (options.write {}).mapError .ofLiteral

def callOf : Operation → Except Fault Call
  | .openPage _ => .error .notACall
  | .closePage => .ok ⟨none, "close".toList, []⟩
  | .click c => do
    let arguments ← writeOptions (clickOptions c)
    return onElement c.selector (clickMethod c.clickCount) arguments
  | .check selector => .ok (onElement selector "check" [])
  | .uncheck selector => .ok (onElement selector "uncheck" [])
  | .fill selector text => .ok (onElement selector "fill" (Literal.quote text.toList))
  | .setInputFiles selector files => do
    return onElement selector "set_input_files" (← literal (oneOrMany files))
  | .press selector key modifiers =>
    .ok (onElement selector "press" (Literal.quote (shortcut modifiers key)))
  | .navigate url => .ok ⟨none, "goto".toList, Literal.quote url.toList⟩
  | .select selector options => do
    return onElement selector "select_option" (← literal (oneOrMany options))

def writeOperation (style : Style) (adapter : Adapter) (o : Operation) :
    Except Fault (List Char) := do
  (← callOf o).write style adapter

end Retrace.Script
