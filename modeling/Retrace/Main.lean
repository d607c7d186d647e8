import Retrace.Command.Run

/-!
# The program

Reads the part of the file system that a command line concerns, runs it, and
carries out what the run leaves behind.
-/

namespace Retrace.Main

open Command Files

/-- The paths that a run may read, write or look for. -/
def concerned : Task → List Path
  | .generate o =>
    [o.recording, o.settings.getD Settings.defaultFile] ++ o.output.toList
  | .languages => []
  | .makeSettings directory => [directory.child "recgen.yaml"]

/-- What stands at a path whose parent is a directory. -/
def look (p : Path) : IO (Option Entry) := do
  try
    return some (.file (← IO.FS.readBinFile p.toString).toList)
  catch
    | .noFileOrDirectory .. => return none
    | _ => return some .directory

def lookAlong (t : Tree) (p : Path) : IO Tree := do
  let mut tree := t
  for n in List.range p.names.length do
    let q : Path := { p with names := p.names.take (n + 1) }
    match tree.locate q with
    | .ok l =>
      if let some entry ← look q then tree := tree.put l entry
    | .error _ => break
  return tree

/-- Writes what is new or different. -/
def carryOut (before after : Tree) : IO Unit := do
  for (l, entry) in after.entries do
    if before.find? l ≠ some entry then
      match entry with
      | .directory => IO.FS.createDirAll l.toString
      | .file content => IO.FS.writeBinFile l.toString ⟨content.toArray⟩

def environment : IO Settings.Environment := do
  let mut found := []
  for (name, _) in Settings.knownVariables do
    if let some value ← IO.getEnv name then found := found ++ [(name, value)]
  return found

end Retrace.Main

open Retrace in
def main (words : List String) : IO UInt32 := do
  match Command.Request.ofWords? words with
  | none =>
    IO.eprintln "usage: recgen [--verbose] (generate RECORDING | languages | init [DIRECTORY])"
    return 2
  | some request =>
    let mut tree : Files.Tree := {}
    for p in Main.concerned request.task do
      tree ← Main.lookAlong tree p
    let directory ← IO.currentDir
    let outcome := Command.answer
      { tree
        environment := ← Main.environment
        directory := .ofString directory.toString
        outputIsTerminal := ← (← IO.getStdout).isTty
        errorsAreTerminal := ← (← IO.getStderr).isTty } request
    Main.carryOut tree outcome.tree
    outcome.errors.forM fun s => IO.eprintln s
    outcome.output.forM fun s => IO.println s
    if let some fault := outcome.escaped then IO.eprintln fault.message
    return UInt32.ofNat outcome.exitCode
