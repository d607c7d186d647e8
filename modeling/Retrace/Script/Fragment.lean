import Retrace.Outline.Draft
import Retrace.Script.Call
import Retrace.Script.Subject

/-!
# Code fragments

The fragment of an entry is its call, wrapped in a block for each event the
script has to wait for: the new page inside, the download outside, and a
handler for dialogs before everything. Opening a page is an address to go to,
or nothing at all if the page is blank.
-/

namespace Retrace.Script

open Outline Recording

/-- Actions stand in the body of a function. -/
def bodyOffset : Nat := 4

def blankPages : List String := ["about:blank", "chrome://newtab/"]

/-- A block that waits for an event around some nodes, and the line that takes its value. -/
def expecting (page : List Char) (method : String) (taken : List Char) (body : List Node) :
    List Node :=
  [.block ("with ".toList ++ page ++ '.' :: method.toList ++ "() as ".toList ++ taken
      ++ "_info:".toList) body,
    .line (taken ++ " = ".toList ++ taken ++ "_info.value".toList)]

def dismissDialog (page : List Char) : Node :=
  .line (page ++ ".once(\x22dialog\x22, lambda dialog: dialog.dismiss())".toList)

/-- The nodes of a call with everything it sets off. -/
def withEffects (page : List Char) (effects : Effects) (call : List Char) : List Node :=
  let body : List Node := [.line call]
  let body :=
    match effects.popup with
    | some handle => expecting page "expect_popup" handle.toList body
    | none => body
  let body :=
    match effects.download with
    | some suffix => expecting page "expect_download" ("download" ++ suffix).toList body
    | none => body
  match effects.dialog with
  | some _ => dismissDialog page :: body
  | none => body

def isBlankPage (url : List Char) : Bool :=
  url = [] || blankPages.any fun blank => blank.toList = url

/-- The nodes for a page that is opened. -/
def openPageNodes (page : List Char) (url : String) : List Node :=
  let url := Text.strip url.toList
  if isBlankPage url then []
  else [.line (page ++ ".goto(".toList ++ Literal.quote url ++ [')'])]

def nodes (style : Style) (adapter : Adapter) (e : Entry) : Except Fault (List Node) :=
  let page := e.frame.pageAlias.toList
  match e.action.operation with
  | .openPage url => .ok (openPageNodes page url)
  | operation => do
    let subject ← subject e.frame (isNavigation operation)
    let call ← writeOperation style adapter operation
    return withEffects page (.ofSignals e.action.signals) (subject ++ '.' :: call)

/-- The text of an entry's fragment. -/
def fragment (style : Style) (adapter : Adapter) (e : Entry) : Except Fault (List Char) :=
  textOf bodyOffset <$> nodes style adapter e

theorem nodes_openPage {e : Entry} {url : String} (h : e.action.operation = .openPage url)
    (style : Style) (adapter : Adapter) :
    nodes style adapter e = .ok (openPageNodes e.frame.pageAlias.toList url) := by
  simp [nodes, h]

theorem nodes_of_call {e : Entry} (h : ∀ url, e.action.operation ≠ .openPage url) (style : Style)
    (adapter : Adapter) :
    nodes style adapter e = do
      let subject ← subject e.frame (isNavigation e.action.operation)
      let call ← writeOperation style adapter e.action.operation
      return withEffects e.frame.pageAlias.toList (.ofSignals e.action.signals)
        (subject ++ '.' :: call) := by
  unfold nodes
  dsimp only
  split
  · next url hurl => exact absurd hurl (h url)
  · rfl

end Retrace.Script
