/-!
# Lines

A line ends at a line feed. Texts read from files have their carriage returns
replaced first.
-/

namespace Retrace.Text

/-- A carriage return, alone or before a line feed, becomes a line feed. -/
def normaliseBreaks : List Char → List Char
  | [] => []
  | '\r' :: '\n' :: rest => '\n' :: normaliseBreaks rest
  | c :: rest => (if c = '\r' then '\n' else c) :: normaliseBreaks rest

def splitLines : List Char → List (List Char)
  | [] => [[]]
  | c :: rest =>
    if c = '\n' then [] :: splitLines rest
    else
      match splitLines rest with
      | [] => [[c]]
      | line :: lines => (c :: line) :: lines

def joinLines (lines : List (List Char)) : List Char := ['\n'].intercalate lines

/-- Counting from one, the line and the column of a place in the text. -/
def lineAndColumn (s : List Char) (index : Nat) : Nat × Nat :=
  let before := s.take index
  (before.count '\n' + 1, (before.reverse.takeWhile (· != '\n')).length + 1)

@[simp] theorem joinLines_singleton (line : List Char) : joinLines [line] = line := by
  simp [joinLines, List.intercalate]

theorem joinLines_cons_cons (a b : List Char) (lines : List (List Char)) :
    joinLines (a :: b :: lines) = a ++ '\n' :: joinLines (b :: lines) := by
  simp [joinLines, List.intercalate]

theorem splitLines_append_newline (a : List Char) (h : '\n' ∉ a) (rest : List Char) :
    splitLines (a ++ '\n' :: rest) = a :: splitLines rest := by
  induction a with
  | nil => simp [splitLines]
  | cons c a ih =>
    simp only [List.mem_cons, not_or] at h
    simp [splitLines, ih h.2, Ne.symm h.1]

theorem splitLines_of_not_mem {a : List Char} (h : '\n' ∉ a) : splitLines a = [a] := by
  induction a with
  | nil => rfl
  | cons c a ih =>
    simp only [List.mem_cons, not_or] at h
    simp [splitLines, ih h.2, Ne.symm h.1]

end Retrace.Text
