import Retrace.Script.Assemble

/-!
# What is recorded while a script is made

Every entry that becomes a call is recorded, after the conversion of its
selector. The records end with the first entry that cannot be written; the
script itself is recorded only if there is none.
-/

namespace Retrace.Script

open Recording

def locatorRecord (selector locator : List Char) : Log.Record :=
  Log.debug "recgen.codegen.locators"
    s!"セレクタを変換しました: {String.ofList selector} → {String.ofList locator}"

def convertedRecord (kind : String) (subject : List Char) : Log.Record :=
  Log.debug "recgen.languages.base"
    s!"アクションを変換しました: {kind} ({String.ofList subject})"

namespace Generator

/-- The record of a selector's conversion, if there is one. -/
def locatorRecords (g : Generator) (o : Operation) : List Log.Record :=
  match g.style, callOf o with
  | .locator, .ok ⟨some selector, _, _⟩ =>
    match g.adapter selector with
    | .ok locator => [locatorRecord selector locator]
    | .error _ => []
  | _, _ => []

/-- The records of an entry that has a fragment. -/
def entryRecords (g : Generator) (e : Entry) : List Log.Record :=
  match e.action.operation with
  | .openPage _ => []
  | o =>
    match subject e.frame (isNavigation o) with
    | .ok s => g.locatorRecords o ++ [convertedRecord o.kind s]
    | .error _ => []

def isWritten (g : Generator) (e : Entry) : Bool :=
  match g.fragment e with
  | .ok _ => true
  | .error _ => false

def finishedRecord (name : String) (recording : List Entry) : Log.Record :=
  Log.debug "recgen.script"
    s!"スクリプトを生成しました: {name}（{recording.length} 件）"

/-- The records of a script, under the generator's name. -/
def records [Text.View] (g : Generator) (name : String) (recording : List Entry)
    (options : Options) : List Log.Record :=
  headerWarnings g.language options ++
    match header g.language options with
    | .error _ => []
    | .ok _ =>
      let written := recording.takeWhile g.isWritten
      written.flatMap g.entryRecords
        ++ if written.length = recording.length then [finishedRecord name recording] else []

end Generator

end Retrace.Script
