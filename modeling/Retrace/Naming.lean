import Retrace.Text.Lower

/-!
# Keyword names

A name in camel case becomes one in snake case. An underscore goes first
between a small letter or digit and a capital, then between two capitals of
which the second begins a word; at the end everything is lowered. Only the
plain letters and digits bound words.
-/

namespace Retrace.Naming

def isSmall (c : Char) : Bool := 'a' ≤ c && c ≤ 'z'

def isCapital (c : Char) : Bool := 'A' ≤ c && c ≤ 'Z'

def isSmallOrDigit (c : Char) : Bool := isSmall c || ('0' ≤ c && c ≤ '9')

/-- An underscore before each capital that follows a small letter or a digit. -/
def markWordStarts : List Char → List Char
  | a :: b :: rest =>
    if isSmallOrDigit a && isCapital b then a :: '_' :: b :: markWordStarts rest
    else a :: markWordStarts (b :: rest)
  | s => s

/-- An underscore before each capital that ends a run of capitals and begins a word. -/
def markRunEnds : List Char → List Char
  | a :: b :: c :: rest =>
    if isCapital a && isCapital b && isSmall c then a :: '_' :: b :: c :: markRunEnds rest
    else a :: markRunEnds (b :: c :: rest)
  | s => s

def snakeCase (name : List Char) : List Char :=
  Text.lower (markRunEnds (markWordStarts name))

end Retrace.Naming
