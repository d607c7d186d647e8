import Retrace.Settings.Layers

/-!
# Loading in place

One set of settings that steps change where it is, as a caller that keeps it sees it.
What a step set and said before it failed stays.
-/

namespace Retrace.Settings

open Files

/-- Settings that are kept, and what was said on the way to them. -/
structure Loader where
  settings : Settings := {}
  records : List Log.Record := []

abbrev Loading := ExceptT Fault (StateM Loader)

/-- A change of the settings that cannot fail. -/
def adopt (change : Settings → Settings × List Log.Record) : Loading Unit :=
  modify fun l => ⟨(change l.settings).1, l.records ++ (change l.settings).2⟩

/-- The entries of a file are taken over one by one. An empty file changes nothing. -/
def loadContent (path : Path) (content : Datum) : Loading Unit := do
  if content.isNone then return
  match content.entries? with
  | none => throw (.notAMapping path)
  | some entries =>
    entries.forM fun entry => adopt (applyEntry path entry)
    adopt fun s => (s, [loadedRecord path])

def loadFile (t : Tree) (path : Path) : Loading Unit := do
  loadContent path (← ExceptT.mk (pure ((readDocument t path).mapError (.document path))))

def loadEnvironment (env : Environment) : Loading Unit :=
  knownVariables.forM fun v => adopt (applyVariable env v)

/-! ## Runs -/

inductive Step where
  | file (t : Tree) (path : Path)
  | environment (env : Environment)

def Step.load : Step → Loading Unit
  | file t path => loadFile t path
  | environment env => loadEnvironment env

/-- What is left after a step, whether it has failed or not. -/
def Loader.after (l : Loader) (step : Step) : Loader := (step.load.run l).2

/-- What is left after some steps. A failed one does not keep the next ones from being made. -/
def Loader.afterAll (l : Loader) (steps : List Step) : Loader := steps.foldl Loader.after l

/-- What some steps make of the defaults. -/
def loadAll (steps : List Step) : Loader := ({} : Loader).afterAll steps

end Retrace.Settings
