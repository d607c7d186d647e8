import Retrace.Script.Fault

/-!
# What a method is called on

The main frame is the page itself. Another frame is addressed by the first of
three ways that is usable: by the selectors of the frames around it, unless the
operation is a navigation, by its name, or by its address.
-/

namespace Retrace.Script

open Recording

def frameLocator (selector : String) : List Char :=
  ".frame_locator(".toList ++ Literal.quote selector.toList ++ [')']

/-- A frame of the page found by one keyword. -/
def frameBy (page : List Char) (keyword : String) (value : String) : List Char :=
  page ++ ".frame(".toList ++ keyword.toList ++ '=' :: Literal.quote value.toList ++ [')']

/-- A text that is there and not empty. -/
def usable? : Option String → Option String
  | some s => if s = "" then none else some s
  | none => none

def subject (f : Frame) (navigation : Bool) : Except Fault (List Char) :=
  let page := f.pageAlias.toList
  if f.isMainFrame then .ok page
  else if f.selectorsChain ≠ [] && !navigation then
    .ok (page ++ f.selectorsChain.flatMap frameLocator)
  else
    match usable? f.name, usable? f.url with
    | some name, _ => .ok (frameBy page "name" name)
    | none, some url => .ok (frameBy page "url" url)
    | none, none => .error (.unaddressable f)

def isNavigation : Operation → Bool
  | .navigate _ => true
  | _ => false

end Retrace.Script
