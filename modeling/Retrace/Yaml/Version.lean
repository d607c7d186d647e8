/-!
# Versions of YAML

A document names its version in a directive. One that names none is of the
current version. The early one knows more spellings of truth values and numbers.
-/

namespace Retrace.Yaml

inductive Version where
  | early
  | current
  deriving DecidableEq, Repr

namespace Version

/-- The number after the point; the one before it is always 1. -/
def minor : Version → Nat
  | early => 1
  | current => 2

def ofMinor? (n : Nat) : Option Version := [early, current].find? fun v => v.minor == n

end Version

end Retrace.Yaml
