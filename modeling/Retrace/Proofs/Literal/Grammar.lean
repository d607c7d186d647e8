import Retrace.Proofs.Literal.Text
import Retrace.Proofs.Number.Layout

/-!
# A reader of literals

A literal is read lexeme by lexeme: a leaf, a bracket, a comma or a colon, with
blanks between them. What is open is a stack of collections, the innermost
first, beside the value that has just been read. Parentheses without a comma
only group; behind the last item a comma may stand; a key is a text, and the
last value of a key counts. A number is a whole one without leading zeros and
of limited length, or has a point or an exponent.
-/

namespace Retrace.Literal

open Numeral

inductive Bracket where
  | square
  | round
  | curly
  deriving DecidableEq, Repr

inductive Lexeme where
  | leaf (value : Datum)
  | opening (bracket : Bracket)
  | closing (bracket : Bracket)
  | comma
  | colon

/-- The lexemes of one character. -/
def mark? (c : Char) : Option Lexeme :=
  if c = '[' then some (.opening .square)
  else if c = ']' then some (.closing .square)
  else if c = '(' then some (.opening .round)
  else if c = ')' then some (.closing .round)
  else if c = '\x7b' then some (.opening .curly)
  else if c = '\x7d' then some (.closing .curly)
  else if c = ',' then some .comma
  else if c = ':' then some .colon
  else none

/-- A character of a word or a number. -/
def isLeafChar (c : Char) : Bool := c != ' ' && c != '\x22' && (mark? c).isNone

/-! ## Leaves -/

/-- Splits off a minus sign. -/
def takeMinus : List Char → Bool × List Char
  | '-' :: rest => (true, rest)
  | s => (false, s)

/-- Digits that spell a whole number: no zero in front of others, and not too many. -/
def isWhole (digits : List Char) : Bool :=
  digits = ['0'] || (digits ≠ [] && digits.head? ≠ some '0' && digits.length ≤ digitLimit)

def readNumber (s : List Char) : Option Datum :=
  let (negative, digits) := takeMinus s
  if digits.all isPlainDigit then
    if isWhole digits then some (.int (signed negative (valueOf 10 digits))) else none
  else (readUnsigned negative digits).map .double

def readLeaf (s : List Char) : Option Datum :=
  if s = "None".toList then some .none
  else if s = "True".toList then some (.bool true)
  else if s = "False".toList then some (.bool false)
  else readNumber s

theorem readLeaf_nil : readLeaf [] = none := rfl

/-- The first lexeme, where no blank stands, and what follows it. -/
def lexeme? : List Char → Option (Lexeme × List Char)
  | [] => none
  | c :: rest =>
    if c = '\x22' then
      (takeText .quotation rest).map fun p => (.leaf (.text (String.ofList p.1)), p.2)
    else
      match mark? c with
      | some lexeme => some (lexeme, rest)
      | none =>
        (readLeaf ((c :: rest).takeWhile isLeafChar)).map fun d =>
          (.leaf d, (c :: rest).dropWhile isLeafChar)

theorem length_lexeme? {s rest : List Char} {lexeme : Lexeme}
    (h : lexeme? s = some (lexeme, rest)) : rest.length < s.length := by
  cases s with
  | nil => cases h
  | cons c s =>
    simp only [lexeme?] at h
    split at h
    case isTrue =>
      obtain ⟨p, hp, h⟩ := Option.map_eq_some_iff.mp h
      cases h
      have := length_takeText hp
      simp only [List.length_cons]
      omega
    case isFalse =>
      split at h
      case h_1 =>
        cases h
        simp
      case h_2 =>
        obtain ⟨d, hd, h⟩ := Option.map_eq_some_iff.mp h
        cases h
        -- an empty leaf is none, so the leaf takes a character
        cases hc : isLeafChar c with
        | false =>
          rw [List.takeWhile_cons_of_neg (by simp [hc]), readLeaf_nil] at hd
          cases hd
        | true =>
          rw [List.dropWhile_cons_of_pos hc]
          exact Nat.lt_succ_of_le (List.dropWhile_sublist _).length_le

/-! ## Collections -/

/-- An open collection with what was read in it: items, or entries and a key that waits. -/
inductive Collection where
  | list (items : List Datum)
  | tuple (items : List Datum)
  | dict (entries : List (Datum × Datum)) (key : Option Datum)

def Collection.ofBracket : Bracket → Collection
  | .square => .list []
  | .round => .tuple []
  | .curly => .dict [] none

/-- Takes up a value in front of a comma. -/
def Collection.add? : Collection → Datum → Option Collection
  | .list items, d => some (.list (items ++ [d]))
  | .tuple items, d => some (.tuple (items ++ [d]))
  | .dict entries (some key), d => some (.dict (Datum.put key d entries) none)
  | .dict _ none, _ => none

/-- The value of a collection that a bracket closes, the last value not yet taken up. -/
def Collection.close? : Collection → Bracket → Option Datum → Option Datum
  | .list items, .square, last => some (.list (items ++ last.toList))
  | .tuple [], .round, some d => some d
  | .tuple items, .round, last => some (.tuple (items ++ last.toList))
  | .dict entries none, .curly, none => some (.dict entries)
  | .dict entries (some key), .curly, some d => some (.dict (Datum.put key d entries))
  | _, _, _ => none

structure Reading where
  outer : List Collection
  value : Option Datum

def Reading.step (r : Reading) : Lexeme → Option Reading
  | .leaf d =>
    match r.value with
    | none => some ⟨r.outer, some d⟩
    | some _ => none
  | .opening bracket =>
    match r.value with
    | none => some ⟨.ofBracket bracket :: r.outer, none⟩
    | some _ => none
  | .closing bracket =>
    match r.outer with
    | inner :: outer => (inner.close? bracket r.value).map fun d => ⟨outer, some d⟩
    | [] => none
  | .comma =>
    match r.outer, r.value with
    | inner :: outer, some d => (inner.add? d).map fun inner => ⟨inner :: outer, none⟩
    | _, _ => none
  | .colon =>
    match r.outer, r.value with
    | .dict entries none :: outer, some (.text key) =>
      some ⟨.dict entries (some (.text key)) :: outer, none⟩
    | _, _ => none

def readFrom (r : Reading) (s : List Char) : Option Reading :=
  match s with
  | [] => some r
  | c :: rest =>
    if c = ' ' then readFrom r rest
    else
      match _h : lexeme? (c :: rest) with
      | none => none
      | some (lexeme, after) => (r.step lexeme).bind fun r => readFrom r after
termination_by s.length
decreasing_by
  · simp
  · exact length_lexeme? _h

/-- The value of a text that is one literal and nothing else. -/
def read? (s : List Char) : Option Datum :=
  match readFrom ⟨[], none⟩ s with
  | some ⟨[], value⟩ => value
  | _ => none

/-! ## Reading lexeme by lexeme -/

theorem readFrom_nil (r : Reading) : readFrom r [] = some r := by
  rw [readFrom]

theorem readFrom_blank (r : Reading) (rest : List Char) :
    readFrom r (' ' :: rest) = readFrom r rest := by
  rw [readFrom, if_pos rfl]

theorem readFrom_lexeme {r : Reading} {c : Char} {s rest : List Char} {lexeme : Lexeme}
    (hc : c ≠ ' ') (h : lexeme? (c :: s) = some (lexeme, rest)) :
    readFrom r (c :: s) = (r.step lexeme).bind fun r => readFrom r rest := by
  rw [readFrom, if_neg hc]
  split
  · next hnone => rw [h] at hnone; cases hnone
  · next hsome => rw [h] at hsome; cases hsome; rfl

theorem readFrom_mark {c : Char} {lexeme : Lexeme} (h : mark? c = some lexeme) (r : Reading)
    (rest : List Char) :
    readFrom r (c :: rest) = (r.step lexeme).bind fun r => readFrom r rest := by
  have hblank : c ≠ ' ' := by
    rintro rfl
    exact absurd h (by simp [mark?])
  have hquotation : c ≠ '\x22' := by
    rintro rfl
    exact absurd h (by simp [mark?])
  apply readFrom_lexeme hblank
  rw [lexeme?, if_neg hquotation, h]

/-- What may follow a word or a number. -/
def Stops (rest : List Char) : Prop := ∀ c ∈ rest.head?, isLeafChar c = false

theorem readFrom_text (r : Reading) (text rest : List Char) :
    readFrom r (quote text ++ rest)
      = (r.step (.leaf (.text (String.ofList text)))).bind fun r => readFrom r rest := by
  have hlexeme : lexeme? ('\x22' :: (escape .quotation text ++ '\x22' :: rest))
      = some (.leaf (.text (String.ofList text)), rest) := by
    rw [lexeme?, if_pos rfl, takeText_quotation]
    rfl
  rw [quote_append]
  exact readFrom_lexeme (by decide) hlexeme

theorem readFrom_leaf {s : List Char} {d : Datum} (h : readLeaf s = some d)
    (hs : ∀ c ∈ s, isLeafChar c = true) (r : Reading) {rest : List Char} (hrest : Stops rest) :
    readFrom r (s ++ rest) = (r.step (.leaf d)).bind fun r => readFrom r rest := by
  cases s with
  | nil =>
    rw [readLeaf_nil] at h
    cases h
  | cons c s =>
    obtain ⟨⟨hblank, hquotation⟩, hmark⟩ : (c ≠ ' ' ∧ c ≠ '\x22') ∧ mark? c = none := by
      simpa [isLeafChar] using hs c (by simp)
    obtain ⟨htake, hdrop⟩ := span_append hs hrest
    rw [List.cons_append] at htake hdrop ⊢
    apply readFrom_lexeme hblank
    simp only [lexeme?, if_neg hquotation, hmark, htake, hdrop, h, Option.map_some]

end Retrace.Literal
