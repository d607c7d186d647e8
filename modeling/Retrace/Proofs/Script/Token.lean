import Retrace.Proofs.Literal.Text
import Retrace.Script.Fragment
import Retrace.Text.Word

/-!
# The literals of a text of code

Code is read from left to right as single characters and literals between
quotation marks. A mark right behind a name or behind another literal would
change how a literal is read, and the marks of other literals and of comments
may not occur at all: on all of these the reader gives up.

Two texts are alike if they read as the same code up to the texts of their
literals. Being alike is kept by putting texts together, so it is shown for
each piece of a fragment on its own.
-/

namespace Retrace.Script

open Literal

inductive Token where
  | code (c : Char)
  | literal (text : List Char)
  deriving DecidableEq, Repr

/-- A character that may stand in code outside literals. -/
def isCode (c : Char) : Bool := c != '\x22' && c != '\'' && c != '#'

/-- Code that is no part of a name: a literal may stand behind it. -/
def isMark (c : Char) : Bool := isCode c && !Text.isWord c

/-- Characters of a kind to which no mark of a literal or a comment belongs are code. -/
theorem isCode_of_kind {kind : Char → Bool} (hquotation : kind '\x22' = false)
    (happostrophe : kind '\'' = false) (hcomment : kind '#' = false) {c : Char}
    (h : kind c = true) : isCode c = true := by
  have hne {x : Char} (hx : kind x = false) : c ≠ x := by
    rintro rfl
    rw [hx] at h
    cases h
  simp [isCode, hne hquotation, hne happostrophe, hne hcomment]

/-- Code without any literal. -/
def isPlain (s : List Char) : Bool := s.all isCode

@[simp] theorem isPlain_cons (c : Char) (s : List Char) :
    isPlain (c :: s) = (isCode c && isPlain s) :=
  rfl

@[simp] theorem isPlain_append (s t : List Char) :
    isPlain (s ++ t) = (isPlain s && isPlain t) :=
  List.all_append

/-- The tokens of a text; `joined` tells that a mark may not come first. -/
def tokensFrom (joined : Bool) (s : List Char) : Option (List Token) :=
  match s with
  | [] => some []
  | c :: rest =>
    if c = '\x22' then
      if joined then none
      else
        match _h : takeText .quotation rest with
        | none => none
        | some (text, after) => (tokensFrom true after).map (.literal text :: ·)
    else if isCode c then (tokensFrom (Text.isWord c) rest).map (.code c :: ·)
    else none
termination_by s.length
decreasing_by
  · have := length_takeText _h
    simp only [List.length_cons]
    omega
  · simp

def tokens? (s : List Char) : Option (List Token) := tokensFrom false s

/-- A token without the text of a literal, for which nothing stands. -/
def Token.masked : Token → Option Char
  | .code c => some c
  | .literal _ => none

def Token.text? : Token → Option (List Char)
  | .code _ => none
  | .literal text => some text

/-- The code with a placeholder for each literal. -/
def masked (tokens : List Token) : List (Option Char) := tokens.map Token.masked

/-- The texts of the literals, from left to right. -/
def textsOf (tokens : List Token) : List (List Char) := tokens.filterMap Token.text?

@[simp] theorem masked_append (a b : List Token) : masked (a ++ b) = masked a ++ masked b := by
  simp [masked]

@[simp] theorem textsOf_append (a b : List Token) : textsOf (a ++ b) = textsOf a ++ textsOf b := by
  simp [textsOf]

/-! ## Reading piece by piece -/

theorem tokensFrom_code {c : Char} (h : isCode c = true) (joined : Bool) (rest : List Char) :
    tokensFrom joined (c :: rest) = (tokensFrom (Text.isWord c) rest).map (.code c :: ·) := by
  have hc : c ≠ '\x22' := by
    rintro rfl
    exact absurd h (by decide)
  rw [tokensFrom, if_neg hc, if_pos h]

theorem tokensFrom_quote (text rest : List Char) :
    tokensFrom false (quote text ++ rest) = (tokensFrom true rest).map (.literal text :: ·) := by
  rw [quote_append, tokensFrom, if_pos rfl, if_neg Bool.false_ne_true]
  split
  · next h =>
    rw [takeText_quotation] at h
    cases h
  · next h =>
    rw [takeText_quotation] at h
    cases h
    rfl

/-- A text gives its tokens whatever follows, and leaves the flag that it leaves. -/
def Lexes (joined : Bool) (s : List Char) (tokens : List Token) (after : Bool) : Prop :=
  ∀ rest, tokensFrom joined (s ++ rest) = (tokensFrom after rest).map (tokens ++ ·)

theorem Lexes.append {joined middle after : Bool} {s t : List Char} {a b : List Token}
    (hs : Lexes joined s a middle) (ht : Lexes middle t b after) :
    Lexes joined (s ++ t) (a ++ b) after := by
  intro rest
  rw [List.append_assoc, hs, ht, Option.map_map]
  congr 1
  funext tokens
  exact (List.append_assoc a b tokens).symm

theorem Lexes.tokensFrom_eq {joined after : Bool} {s : List Char} {tokens : List Token}
    (h : Lexes joined s tokens after) : tokensFrom joined s = some tokens := by
  have h := h []
  rw [List.append_nil] at h
  rw [h, tokensFrom]
  simp

/-! ## Texts that are alike -/

/-- Both texts read as the same code up to the texts of their literals. -/
def AlikeFrom (joined : Bool) (s s' : List Char) (texts texts' : List (List Char)) : Prop :=
  ∃ tokens tokens' after, Lexes joined s tokens after ∧ Lexes joined s' tokens' after
    ∧ masked tokens = masked tokens' ∧ textsOf tokens = texts ∧ textsOf tokens' = texts'

/-- Texts that are alike wherever they stand. -/
def Alike (s s' : List Char) (texts texts' : List (List Char)) : Prop :=
  ∀ joined, AlikeFrom joined s s' texts texts'

section

variable {joined : Bool} {s s' t t' : List Char} {a a' b b' : List (List Char)}

theorem AlikeFrom.append (hs : AlikeFrom joined s s' a a') (ht : Alike t t' b b') :
    AlikeFrom joined (s ++ t) (s' ++ t') (a ++ b) (a' ++ b') := by
  obtain ⟨x, x', middle, hx, hx', hmask, rfl, rfl⟩ := hs
  obtain ⟨y, y', after, hy, hy', hmask', rfl, rfl⟩ := ht middle
  exact ⟨x ++ y, x' ++ y', after, hx.append hy, hx'.append hy', by simp [hmask, hmask'],
    textsOf_append x y, textsOf_append x' y'⟩

theorem Alike.append (hs : Alike s s' a a') (ht : Alike t t' b b') :
    Alike (s ++ t) (s' ++ t') (a ++ b) (a' ++ b') := by
  intro joined
  exact (hs joined).append ht

theorem Alike.nil : Alike [] [] [] [] := by
  intro joined
  have h : Lexes joined [] [] joined := by
    intro rest
    simp
  exact ⟨[], [], joined, h, h, rfl, rfl, rfl⟩

theorem Alike.of_isCode {c : Char} (hc : isCode c = true) : Alike [c] [c] [] [] := by
  intro joined
  have h : Lexes joined [c] [.code c] (Text.isWord c) := by
    intro rest
    exact tokensFrom_code hc joined rest
  exact ⟨_, _, _, h, h, rfl, rfl, rfl⟩

/-- Code without literals is alike itself. -/
theorem Alike.code (h : isPlain s = true) : Alike s s [] [] := by
  induction s with
  | nil => exact .nil
  | cons c s ih =>
    obtain ⟨hc, hs⟩ := Bool.and_eq_true_iff.mp h
    exact (Alike.of_isCode hc).append (ih hs)

/-- Literals of any texts are alike behind a character that is no part of a name. -/
theorem AlikeFrom.quote (text text' : List Char) :
    AlikeFrom false (Literal.quote text) (Literal.quote text') [text] [text'] :=
  ⟨[.literal text], [.literal text'], true, tokensFrom_quote text, tokensFrom_quote text', rfl,
    rfl, rfl⟩

theorem AlikeFrom.behind {c : Char} (h : AlikeFrom false s s' a a') (hc : isMark c = true) :
    Alike (c :: s) (c :: s') a a' := by
  intro joined
  obtain ⟨x, x', after, hx, hx', hmask, rfl, rfl⟩ := h
  obtain ⟨hcode, hword⟩ := Bool.and_eq_true_iff.mp hc
  rw [Bool.not_eq_true'] at hword
  have hlexes {s : List Char} {x : List Token} (hx : Lexes false s x after) :
      Lexes joined (c :: s) (.code c :: x) after := by
    have hmark : Lexes joined [c] [.code c] false := by
      intro rest
      rw [← hword]
      exact tokensFrom_code hcode joined rest
    exact hmark.append hx
  refine ⟨_, _, after, hlexes hx, hlexes hx', ?_, rfl, rfl⟩
  simpa [masked, Token.masked] using hmask

end

end Retrace.Script
