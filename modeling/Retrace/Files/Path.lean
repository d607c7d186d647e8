/-!
# Paths

A path is the names on the way to a file, counted from the working directory or
from the root. Empty names and single points say nothing and are left out, so
paths that differ only in them are the same.
-/

namespace Retrace.Files

structure Path where
  isAbsolute : Bool := false
  names : List String := []
  deriving DecidableEq, Repr

namespace Path

/-- The parts of a text between slashes. -/
def split : List Char → List (List Char)
  | [] => [[]]
  | c :: rest =>
    match split rest with
    | [] => [[c]]
    | part :: parts => if c = '/' then [] :: part :: parts else (c :: part) :: parts

def isName (part : List Char) : Bool := part != [] && part != ['.']

def ofString (s : String) : Path where
  isAbsolute := s.toList.head? = some '/'
  names := ((split s.toList).filter isName).map String.ofList

/-- The working directory is written as a point. -/
def toString (p : Path) : String :=
  let names := "/".intercalate p.names
  if p.isAbsolute then "/" ++ names else if p.names = [] then "." else names

/-- Whether a name holds the character that ends names. -/
def hasNull (p : Path) : Bool := p.names.any fun name => name.toList.contains '\x00'

def name (p : Path) : String := p.names.getLast?.getD ""

def parent (p : Path) : Path := { p with names := p.names.dropLast }

def child (p : Path) (name : String) : Path := { p with names := p.names ++ [name] }

/-- One step on. Two points lead back, and above where the path begins if nothing
else is left; the root has nothing above it. -/
def enter (p : Path) (name : String) : Path :=
  if name != ".." then p.child name
  else if p.names = [] then if p.isAbsolute then p else p.child name
  else if p.name = ".." then p.child name
  else p.parent

/-- What follows the last point of a name, with the point. A name that begins or
ends with its last point has none. -/
def suffix (p : Path) : String :=
  let chars := p.name.toList
  let behind := (chars.reverse.takeWhile (· != '.')).reverse
  let before := chars.length - behind.length
  if behind = [] || before ≤ 1 then "" else String.ofList ('.' :: behind)

end Path

end Retrace.Files
