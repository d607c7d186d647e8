import Retrace.Files.Document
import Retrace.Log
import Retrace.Recording.Schema

/-!
# Recordings

A recording is a list of entries, read from a file in the format that the name
of the file tells. The first entry that is not what it should be is the fault
of the whole recording.
-/

namespace Retrace.Recording

open Files

inductive Fault where
  | document (path : Path) (cause : Document.Cause)
  | notAList (kind : String)
  | unnamed (index : Nat)
  | unknownKind (name : Datum) (index : Nat)
  | invalid (index : Nat) (kind : String) (violations : List Violation)
  | modifiers (fault : Modifier.Fault)
  deriving Repr

/-- The heading of a document that cannot be read, or not be made out. -/
def documentHeading : Document.Cause → String
  | .unreadable _ => "記録ファイルを読み込めません"
  | _ => "記録ファイルのパースに失敗しました"

def Fault.message : Fault → String
  | .document path cause => cause.report (documentHeading cause) path
  | .notAList kind => "記録はアクションのリストである必要があります: " ++ kind
  | .unnamed index => s!"{index} 番目の要素に action.name がありません"
  | .unknownKind name index =>
    s!"未対応のアクション種別です: {name.shown}（{index} 番目のアクション）"
  | .invalid index kind violations =>
    s!"{index} 番目のアクション（{kind}）がスキーマに違反しています: {violationsMessage violations}"
  | .modifiers fault => fault.message

/-- The name of the kind of operation that an entry claims to hold. -/
def claimedName? (d : Datum) : Option Datum :=
  ((d.field? "action").bind fun action => action.field? "name").filter Datum.isText

def readEntry (index : Nat) (d : Datum) : Except Fault Entry :=
  match claimedName? d with
  | none => .error (.unnamed index)
  | some name =>
    match kinds.find? fun kind => name.text? == some kind with
    | some kind =>
      match checkEntry d with
      | .accepted e => .ok e
      | .rejected violations => .error (.invalid index kind violations)
      | .broken fault => .error (.modifiers fault)
    | none => .error (.unknownKind name index)

/-- The entries of data, the first of which has the place `index`. -/
def entriesFrom (index : Nat) : List Datum → Except Fault (List Entry)
  | [] => .ok []
  | d :: rest => do
    let e ← readEntry index d
    let others ← entriesFrom (index + 1) rest
    return e :: others

def ofDatum (d : Datum) : Except Fault (List Entry) :=
  match d.view with
  | .list items => entriesFrom 0 items
  | d => .error (.notAList d.kindName)

def yamlSuffixes : List String := [".yaml", ".yml"]

def readDocument (t : Tree) (p : Path) : Except Document.Cause Datum := do
  let text ← Document.readText t p
  if yamlSuffixes.contains p.suffix then Document.ofYaml text else Document.ofJson text

/-- The recording in a file. -/
def load (t : Tree) (p : Path) : Except Fault (List Entry) := do
  ofDatum (← (readDocument t p).mapError (.document p))

def loadedRecord (p : Path) (recording : List Entry) : Log.Record :=
  Log.info "recgen.actions.loader" s!"記録を読み込みました: {p.toString}（{recording.length} 件）"

end Retrace.Recording
