import Retrace.Datum.Show
import Retrace.Files.Path

/-!
# Trees of files

A tree holds files and directories by their locations: paths without steps back,
unless they begin with them. The working directory, what is above it and the
root are always there. Reading, writing and making directories fail for the
reasons a file system gives, and what a change made before it failed stays.
-/

namespace Retrace.Files

/-- A path on which every step leads on, as `Path.enter` makes it. -/
abbrev Location := Path

/-- The places that need no entry: no step leads down to them. -/
def Location.isGiven (l : Location) : Bool := l.names.all (· == "..")

inductive Entry where
  | file (content : List UInt8)
  | directory
  deriving DecidableEq, Repr

structure Tree where
  entries : List (Location × Entry) := []
  deriving DecidableEq, Repr

inductive Cause where
  | notFound
  | taken
  | notADirectory
  | isADirectory
  | nameTooLong
  | nullCharacter
  deriving DecidableEq, Repr

structure Fault where
  cause : Cause
  path : Path
  deriving DecidableEq, Repr

/-- The number under which a file system reports the cause. A path with a null
character is no name of anything, so no file system is asked for it. -/
def Cause.number? : Cause → Option Nat
  | notFound => some 2
  | taken => some 17
  | notADirectory => some 20
  | isADirectory => some 21
  | nameTooLong => some 36
  | nullCharacter => none

def Cause.message : Cause → String
  | notFound => "No such file or directory"
  | taken => "File exists"
  | notADirectory => "Not a directory"
  | isADirectory => "Is a directory"
  | nameTooLong => "File name too long"
  | nullCharacter => "embedded null byte"

def Fault.message (f : Fault) : String :=
  match f.cause.number? with
  | some number => s!"[Errno {number}] {f.cause.message}: {Datum.quoted f.path.toString}"
  | none => f.cause.message

/-- The bytes that a name may have at most. -/
def nameLimit : Nat := 255

/-- The bytes that a whole path may have at most. -/
def pathLimit : Nat := 4095

/-- Why no path can be written like this one. -/
def Path.refusal? (p : Path) : Option Cause :=
  if p.hasNull then some .nullCharacter
  else if pathLimit < p.toString.utf8ByteSize then some .nameTooLong
  else none

namespace Tree

def find? (t : Tree) (l : Location) : Option Entry :=
  if l.isGiven then some .directory else t.entries.lookup l

/-- Puts an entry at a location; what was there keeps its place among the others. -/
def put (t : Tree) (l : Location) (e : Entry) : Tree :=
  if t.entries.any fun x => x.1 = l then
    ⟨t.entries.map fun x => if x.1 = l then (l, e) else x⟩
  else ⟨t.entries ++ [(l, e)]⟩

/-- Goes on from a directory by the given names. -/
def walk (t : Tree) (here : Location) : List String → Except Cause Location
  | [] => .ok here
  | name :: rest =>
    match t.find? here with
    | none => .error .notFound
    | some (.file _) => .error .notADirectory
    | some .directory =>
      if nameLimit < name.utf8ByteSize then .error .nameTooLong
      else t.walk (here.enter name) rest

/-- Where a path leads to, through directories that are there. -/
def locate (t : Tree) (p : Path) : Except Fault Location :=
  match p.refusal? with
  | some cause => .error ⟨cause, p⟩
  | none => (t.walk { p with names := [] } p.names).mapError (⟨·, p⟩)

def read (t : Tree) (p : Path) : Except Fault (List UInt8) := do
  match t.find? (← t.locate p) with
  | some (.file content) => return content
  | some .directory => throw ⟨.isADirectory, p⟩
  | none => throw ⟨.notFound, p⟩

def has (t : Tree) (p : Path) : Bool :=
  match t.locate p with
  | .ok l => (t.find? l).isSome
  | .error _ => false

def write (t : Tree) (p : Path) (content : List UInt8) : Except Fault Tree := do
  let l ← t.locate p
  if t.find? l = some .directory then throw ⟨.isADirectory, p⟩
  else return t.put l (.file content)

def isDirectory (t : Tree) (p : Path) : Bool :=
  match t.locate p with
  | .ok l => t.find? l = some .directory
  | .error _ => false

/-- Makes a directory in one that is there. -/
def makeDirectory (t : Tree) (p : Path) : Except Fault Tree := do
  let l ← t.locate p
  if (t.find? l).isSome then throw ⟨.taken, p⟩ else return t.put l .directory

end Tree

/-! ## Changes in several steps -/

/-- What steps leave behind, and why the last one of them failed if it did. -/
structure Change where
  tree : Tree
  fault : Option Fault := none
  deriving DecidableEq, Repr

namespace Change

/-- A single step, which changes all that it should or nothing. -/
def single (t : Tree) : Except Fault Tree → Change
  | .ok after => ⟨after, none⟩
  | .error fault => ⟨t, some fault⟩

/-- Goes on unless a step has failed. -/
def next (c : Change) (f : Tree → Change) : Change :=
  if c.fault.isSome then c else f c.tree

end Change

namespace Tree

/-- A directory that is there already need not be made. -/
def ensureDirectory (t : Tree) (p : Path) : Change :=
  if t.isDirectory p then ⟨t, none⟩ else .single t (t.makeDirectory p)

/-- Makes the directory with the given names, from the last to the first. The ones
above it are made only if it cannot be made without them. -/
def makeFrom (t : Tree) (start : Path) : List String → Change
  | [] => ⟨t, none⟩
  | name :: above =>
    let p : Path := { start with names := (name :: above).reverse }
    let c := t.ensureDirectory p
    if c.fault = some ⟨.notFound, p⟩ then (t.makeFrom start above).next (ensureDirectory · p)
    else c

/-- Makes a directory and those on the way to it that are missing. -/
def makeDirectories (t : Tree) (p : Path) : Change := t.makeFrom p p.names.reverse

theorem find?_put (t : Tree) {l : Location} (h : l.isGiven = false) (e : Entry) :
    (t.put l e).find? l = some e := by
  unfold put find?
  simp only [h, Bool.false_eq_true, if_false]
  split
  · next found =>
    obtain ⟨entries⟩ := t
    simp only [List.any_eq_true, decide_eq_true_eq] at found
    simp only
    induction entries with
    | nil => simp at found
    | cons x xs ih =>
      by_cases hx : x.1 = l
      · simp [hx]
      · have hx' : ¬ l = x.1 := fun h => hx h.symm
        simp only [List.map_cons, hx, if_false]
        rw [List.lookup_cons]
        simp only [beq_eq_false_iff_ne.mpr hx']
        apply ih
        obtain ⟨y, hy, hyl⟩ := found
        cases hy with
        | head => exact absurd hyl hx
        | tail _ hy => exact ⟨y, hy, hyl⟩
  · next found =>
    obtain ⟨entries⟩ := t
    simp only [List.any_eq_true, decide_eq_true_eq, not_exists, not_and] at found
    simp only
    induction entries with
    | nil => simp
    | cons x xs ih =>
      have hx : ¬ x.1 = l := found x (List.mem_cons_self ..)
      have hx' : ¬ l = x.1 := fun h => hx h.symm
      rw [List.cons_append, List.lookup_cons]
      simp only [beq_eq_false_iff_ne.mpr hx']
      exact ih fun y hy => found y (List.mem_cons_of_mem _ hy)

end Tree

end Retrace.Files
