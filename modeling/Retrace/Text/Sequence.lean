/-!
# Control sequences

What is meant for a terminal may hold sequences that colour it or move its
cursor: an escape character and a bracket, parameters, and a letter. Where
there is no terminal they are left out of what is printed.
-/

namespace Retrace.Text

def isParameter (n : Nat) : Bool :=
  n = ';'.toNat || n = '?'.toNat || ('0'.toNat ≤ n && n ≤ '9'.toNat)

def isLetter (n : Nat) : Bool :=
  ('A'.toNat ≤ n && n ≤ 'Z'.toNat) || ('a'.toNat ≤ n && n ≤ 'z'.toNat)

/-- The number of code points that belong to a control sequence after its escape character. -/
def sequenceLength? : List Nat → Option Nat
  | [] => none
  | bracket :: rest =>
    if bracket = '['.toNat then
      match rest.dropWhile isParameter with
      | n :: _ => if isLetter n then some ((rest.takeWhile isParameter).length + 2) else none
      | [] => none
    else none

/-- The text after `skip` code points that belong to a sequence already found. -/
def withoutSequencesAfter : Nat → List Nat → List Nat
  | _, [] => []
  | skip + 1, _ :: rest => withoutSequencesAfter skip rest
  | 0, n :: rest =>
    match if n = '\x1b'.toNat then sequenceLength? rest else none with
    | some length => withoutSequencesAfter length rest
    | none => n :: withoutSequencesAfter 0 rest

/-- A text without its control sequences. What remains may form others. -/
def withoutSequences (points : List Nat) : List Nat := withoutSequencesAfter 0 points

end Retrace.Text
