import Retrace.Script.Assemble

/-!
# Registered generators

Generators are registered under identifiers, each at most once, and found or
listed by them. Something that is no generator cannot be registered. A call that
fails changes nothing.
-/

namespace Retrace.Language

structure Info where
  id : String
  group : String
  name : String
  highlighter : String
  deriving DecidableEq, Repr

/-- Something offered for registration: a generator, or an object of some other kind. -/
inductive Candidate (α : Type) where
  | generator (info : Info) (value : α)
  | other (kind : String)

inductive Fault where
  | notAGenerator (kind : String)
  | taken (id : String)
  | unknown (id : String) (available : List String)
  /-- An identifier with halves of surrogate pairs, by its code points. -/
  | unknownPoints (id : List Nat) (available : List String)
  | unknownStyle (style : String)
  deriving DecidableEq, Repr

/-- What a failed look-up says before and after the identifier. -/
def unknownFrame (available : List String) : String × String :=
  let names := ", ".intercalate available
  let listed := if names = "" then "(なし)" else names
  ("未登録の言語です: ", s!"（利用可能: {listed}）")

/-- A failed look-up is reported in quotes. -/
def Fault.message : Fault → String
  | .notAGenerator kind => "LanguageGenerator Protocol を満たしていません: " ++ kind
  | .taken id => s!"言語 '{id}' は既に登録されています"
  | .unknown id available =>
    let (before, after) := unknownFrame available
    Datum.quoted (before ++ id ++ after)
  | .unknownPoints id available =>
    let (before, after) := unknownFrame available
    String.ofList (Datum.showPoints
      (Text.pointsOf before.toList ++ id ++ Text.pointsOf after.toList))
  | .unknownStyle style =>
    "locator_style は 'locator' または 'selector' を指定してください: " ++ style

/-- The registered generators, in the order of their registration. -/
structure Registry (α : Type) where
  generators : List (Info × α) := []

namespace Registry

variable {α : Type}

def find? (r : Registry α) (id : String) : Option (Info × α) :=
  r.generators.find? fun g => g.1.id == id

def has (r : Registry α) (id : String) : Bool := (r.find? id).isSome

def register (r : Registry α) : Candidate α → Except Fault (Registry α)
  | .other kind => .error (.notAGenerator kind)
  | .generator info value =>
    if r.has info.id then .error (.taken info.id)
    else .ok ⟨r.generators ++ [(info, value)]⟩

/-- All generators, sorted by their identifiers. -/
def list (r : Registry α) : List Info :=
  (r.generators.map (·.1)).mergeSort fun a b => a.id ≤ b.id

def get (r : Registry α) (id : String) : Except Fault (Info × α) :=
  match r.find? id with
  | some g => .ok g
  | none => .error (.unknown id (r.list.map Info.id))

/-- The generator that data name. -/
def getNamed (r : Registry α) : Datum → Except Fault (Info × α)
  | .brokenText points => .error (.unknownPoints points (r.list.map Info.id))
  | name => r.get name.plain

def map {β : Type} (f : α → β) (r : Registry α) : Registry β :=
  ⟨r.generators.map fun g => (g.1, f g.2)⟩

theorem has_iff_find? (r : Registry α) (id : String) :
    r.has id = true ↔ ∃ g, r.find? id = some g := by
  simp [has, Option.isSome_iff_exists]

end Registry

def infoOf : Script.Language → Info
  | .robocorp => ⟨"robocorp", "Python", "Robocorp Library", "python"⟩
  | .python => ⟨"python", "Python", "Library", "python"⟩

/-- The generators there are. -/
def standard (style : Script.Style) (adapter : Script.Adapter) : Registry Script.Generator :=
  ⟨Script.Language.all.map fun l => (infoOf l, ⟨l, style, adapter⟩)⟩

def checkStyle (style : String) : Except Fault Script.Style :=
  match Script.Style.ofName? style with
  | some s => .ok s
  | none => .error (.unknownStyle style)

/-- What is recorded when the standard generators are registered. -/
def registrationRecords : List Log.Record :=
  Script.Language.all.map fun l =>
    Log.debug "recgen.languages.registry" ("言語ジェネレータを登録しました: " ++ (infoOf l).id)

/-- The standard generator of a language, with a style given by its name. -/
def generator (language style : String) (adapter : Script.Adapter) :
    Except Fault Script.Generator := do
  let style ← checkStyle style
  return (← (standard style adapter).get language).2

end Retrace.Language
