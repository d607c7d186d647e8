import Retrace.Text.Blank

/-!
# Selector chains

A chain is cut at each separator that stands outside quotes. A quote of either
kind opens outside quotes and closes at the same mark; inside it a backslash
takes the next character with it. The raw segments joined by the separator are
the chain again; its parts are the stripped segments that are not empty.
-/

namespace Retrace.Locator

def separator : List Char := [' ', '>', '>', ' ']

def isQuoteMark (c : Char) : Bool := c = '\'' || c = '\x22'

/-- Puts characters in front of the first segment. -/
def extendFirst (front : List Char) : List (List Char) → List (List Char)
  | [] => [front]
  | segment :: segments => (front ++ segment) :: segments

/-- The raw segments, where `open?` is the mark of the quote that is open. -/
def segments (open? : Option Char) : List Char → List (List Char)
  | [] => [[]]
  | c :: rest =>
    match open? with
    | some mark =>
      if c = '\\' then
        match rest with
        | [] => [[c]]
        | d :: rest => extendFirst [c, d] (segments open? rest)
      else extendFirst [c] (segments (if c = mark then none else open?) rest)
    | none =>
      if isQuoteMark c then extendFirst [c] (segments (some c) rest)
      else
        match c, rest with
        | ' ', '>' :: '>' :: ' ' :: rest => [] :: segments none rest
        | c, rest => extendFirst [c] (segments none rest)

/-- The parts of a selector, from the outermost to the innermost. -/
def parts (selector : List Char) : List (List Char) :=
  ((segments none selector).map Text.strip).filter (· != [])

theorem extendFirst_ne_nil (front : List Char) (l : List (List Char)) :
    extendFirst front l ≠ [] := by
  cases l <;> simp [extendFirst]

end Retrace.Locator
