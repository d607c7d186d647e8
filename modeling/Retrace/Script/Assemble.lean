import Retrace.Script.Header
import Retrace.Script.Unchecked

/-!
# Whole scripts

A script is its header, the fragments that are not empty and its footer, one
after the other. The first fragment that cannot be written is the fault of the
script, with its place in the recording.
-/

namespace Retrace.Script

open Recording

structure Generator where
  language : Language
  style : Style := .locator
  adapter : Adapter := Locator.ofSelector

/-- The fragments of a recording, the first of which has the place `index`. -/
def fragmentsFrom {α : Type} (write : α → Except Fault (List Char)) (index : Nat) :
    List α → Except Fault (List (List Char))
  | [] => .ok []
  | e :: rest => do
    let first ← (write e).mapError (.placed index)
    let others ← fragmentsFrom write (index + 1) rest
    return first :: others

/-- Joins the parts of a script, without the fragments that are empty. -/
def join (header : List Char) (fragments : List (List Char)) (footer : List Char) : List Char :=
  Text.joinLines (header :: fragments.filter (· != []) ++ [footer])

def assemble [Text.View] {α : Type} (language : Language) (write : α → Except Fault (List Char))
    (recording : List α) (options : Options) (saveStorage : Option String) :
    Except Fault (List Char) := do
  let header ← header language options
  let fragments ← fragmentsFrom write 0 recording
  return join header fragments (footer language saveStorage)

/-- An entry that has been checked, or a frame with an action that has not. -/
inductive Item where
  | checked (entry : Entry)
  | unchecked (frame : Frame) (action : Unchecked)
  deriving Repr

namespace Generator

def call (g : Generator) (o : Operation) : Except Fault (List Char) :=
  writeOperation g.style g.adapter o

def fragment (g : Generator) (e : Entry) : Except Fault (List Char) :=
  Script.fragment g.style g.adapter e

def fragmentOf [Text.View] (g : Generator) : Item → Except Fault (List Char)
  | .checked e => g.fragment e
  | .unchecked frame action => action.fragment g.style g.adapter frame

/-- The script of a recording. -/
def script [Text.View] (g : Generator) (recording : List Entry) (options : Options)
    (saveStorage : Option String) : Except Fault (List Char) :=
  assemble g.language g.fragment recording options saveStorage

def scriptOf [Text.View] (g : Generator) (recording : List Item) (options : Options)
    (saveStorage : Option String) : Except Fault (List Char) :=
  assemble g.language g.fragmentOf recording options saveStorage

end Generator

end Retrace.Script
