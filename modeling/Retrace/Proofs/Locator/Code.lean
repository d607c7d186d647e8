import Retrace.Proofs.Literal.OneLine
import Retrace.Proofs.Locator.Pattern
import Retrace.Proofs.Script.Token

/-!
# Code around literals

Code is read one character at a time. A literal ends at its first mark that no
backslash takes along, whether it is raw or not, so only the place where it begins
has to tell the two apart: behind a name no literal begins, but for the one letter
that makes it raw. Of a literal nothing is kept but its place, so texts that are
read as the same code differ in nothing but what their literals say.
-/

namespace Retrace.Locator

open Literal Script

/-- What stands right before a place in code. -/
inductive Before where
  | apart
  | rawLetter
  | joined
  deriving DecidableEq, Repr

/-- What stands before the place behind one more character. -/
def Before.behind (b : Before) (c : Char) : Before :=
  if !Text.isWord c then apart
  else if b = apart && c = 'r' then rawLetter
  else joined

/-- Where a reader of code is. -/
inductive Place where
  | code (before : Before)
  | literal
  | escaped
  deriving DecidableEq, Repr

namespace Place

/-- The place behind one more character, if it may stand there. A literal is on one line. -/
def next : Place → Char → Option Place
  | code before, c =>
    if c = '\x22' then if before = .joined then none else some literal
    else if isCode c then some (code (before.behind c))
    else none
  | literal, c =>
    if Text.isBreak c then none
    else if c = '\x22' then some (code .joined)
    else if c = '\\' then some escaped
    else some literal
  | escaped, c => if Text.isBreak c then none else some literal

/-- What is kept of a character: code as it is, and for a literal the place of its mark. -/
def kept : Place → Char → List (Option Char)
  | code _, c => [if c = '\x22' then none else some c]
  | _, _ => []

end Place

/-- The code of a text read from a place on, and the place behind it. -/
def lex : Place → List Char → Option (List (Option Char) × Place)
  | p, [] => some ([], p)
  | p, c :: s => (p.next c).bind fun q => (lex q s).map fun r => (p.kept c ++ r.1, r.2)

/-- The code of a whole text, with nothing in the place of each literal. -/
def code? (s : List Char) : Option (List (Option Char)) :=
  match lex (.code .apart) s with
  | some (code, .code _) => some code
  | _ => none

/-! ## Reading piece by piece -/

section

variable {p q r : Place} {s t : List Char} {a b : List (Option Char)}

theorem lex_cons {c : Char} (hc : p.next c = some q) (hs : lex q s = some (a, r)) :
    lex p (c :: s) = some (p.kept c ++ a, r) := by
  rw [lex, hc, Option.bind_some, hs]
  rfl

theorem lex_append (hs : lex p s = some (a, q)) (ht : lex q t = some (b, r)) :
    lex p (s ++ t) = some (a ++ b, r) := by
  induction s generalizing p a with
  | nil =>
    cases hs
    exact ht
  | cons c s ih =>
    obtain ⟨p', hc, hs⟩ := Option.bind_eq_some_iff.mp hs
    obtain ⟨⟨a', q'⟩, hs', h⟩ := Option.map_eq_some_iff.mp hs
    cases h
    rw [List.cons_append, lex_cons hc (ih hs'), List.append_assoc]

end

theorem lex_code {c : Char} (h : isCode c = true) (b : Before) :
    lex (.code b) [c] = some ([some c], .code (b.behind c)) := by
  have hc : c ≠ '\x22' := by
    rintro rfl
    exact absurd h (by decide)
  simp [lex, Place.next, Place.kept, hc, h]

/-- The first mark behind the body of a literal ends it. -/
theorem lex_literal {body : List Char} (h : lex .literal body = some ([], .literal)) {b : Before}
    (hb : b ≠ .joined) :
    lex (.code b) ('\x22' :: body ++ ['\x22']) = some ([none], .code .joined) := by
  have hopen : (Place.code b).next '\x22' = some .literal := by
    simp [Place.next, hb]
  exact lex_append (lex_cons hopen h) (t := ['\x22']) (by decide)

/-! ## Bodies of literals -/

theorem lex_plain {c : Char} (hmark : c ≠ '\x22') (hescape : c ≠ '\\')
    (hbreak : Text.isBreak c = false) : lex .literal [c] = some ([], .literal) := by
  simp [lex, Place.next, Place.kept, hmark, hescape, hbreak]

theorem lex_escaped {c : Char} (hbreak : Text.isBreak c = false) :
    lex .literal ['\\', c] = some ([], .literal) := by
  have hescape : Text.isBreak '\\' = false := by decide
  simp [lex, Place.next, Place.kept, hbreak, hescape]

theorem lex_of_not_mem {s : List Char} (hmark : '\x22' ∉ s) (hescape : '\\' ∉ s)
    (hline : ∀ c ∈ s, Text.isBreak c = false) : lex .literal s = some ([], .literal) := by
  induction s with
  | nil => rfl
  | cons c s ih =>
    simp only [List.mem_cons, not_or] at hmark hescape
    obtain ⟨hbreak, hline⟩ := List.forall_mem_cons.mp hline
    exact lex_append (lex_plain (Ne.symm hmark.1) (Ne.symm hescape.1) hbreak)
      (ih hmark.2 hescape.2 hline)

theorem lex_escapeChar (c : Char) :
    lex .literal (escapeChar .quotation c) = some ([], .literal) := by
  have hline : ∀ d ∈ escapeChar .quotation c, Text.isBreak d = false := by
    intro d hd
    apply Text.isOneLine_iff.mp (isOneLine_quote [c])
    simp [quote_eq, hd]
  have hescape := isEscape_escapeChar .quotation c
  generalize escapeChar .quotation c = s at hescape hline ⊢
  cases hescape with
  | self h => exact lex_escaped (hline c (by simp))
  | letter h => exact lex_escaped (hline _ (by simp))
  | codePoint h =>
    have hdigits := lex_of_not_mem (not_mem_hexDigits h (by decide))
      (not_mem_hexDigits h (by decide)) fun d hd => hline d (by simp [hd])
    exact lex_append (lex_escaped (hline 'u' (by simp))) hdigits
  | plain hescape hmark hcontrol => exact lex_plain hmark hescape (hline c (by simp))

theorem lex_escape (text : List Char) :
    lex .literal (escape .quotation text) = some ([], .literal) := by
  induction text with
  | nil => rfl
  | cons c text ih =>
    rw [escape_cons]
    exact lex_append (lex_escapeChar c) ih

/-- What is read as a raw body up to the mark is inside a literal to its end. -/
theorem lex_of_takeRaw {s body rest : List Char} (h : takeRaw s = some (body, rest))
    (hline : ∀ c ∈ body, Text.isBreak c = false) : lex .literal body = some ([], .literal) := by
  fun_induction takeRaw s generalizing body with
  | case1 => cases h
  | case2 =>
    cases h
    rfl
  | case3 => cases h
  | case4 d tail ih =>
    obtain ⟨⟨body, after⟩, hp, h⟩ := Option.map_eq_some_iff.mp h
    cases h
    exact lex_append (lex_escaped (hline d (by simp))) (ih hp fun c hc => hline c (by simp [hc]))
  | case5 c tail hmark hlone hpair ih =>
    obtain ⟨⟨body, after⟩, hp, h⟩ := Option.map_eq_some_iff.mp h
    cases h
    have hescape : c ≠ '\\' := by
      rintro rfl
      cases tail with
      | nil => exact hlone rfl rfl
      | cons d tail => exact hpair d tail rfl rfl
    exact lex_append (lex_plain hmark hescape (hline c (by simp)))
      (ih hp fun c hc => hline c (by simp [hc]))

/-! ## Texts that are the same code -/

/-- Both texts read as the same code, whatever their literals say. -/
def SameCode (before : Before) (s s' : List Char) : Prop :=
  ∃ code after, lex (.code before) s = some (code, .code after)
    ∧ lex (.code before) s' = some (code, .code after)

namespace SameCode

section

variable {b : Before} {s s' t t' : List Char}

theorem code?_eq (h : SameCode .apart s s') :
    ∃ code, code? s = some code ∧ code? s' = some code := by
  obtain ⟨code, after, h, h'⟩ := h
  exact ⟨code, by rw [code?, h], by rw [code?, h']⟩

theorem append (hs : SameCode b s s') (ht : ∀ b, SameCode b t t') :
    SameCode b (s ++ t) (s' ++ t') := by
  obtain ⟨code, after, hs, hs'⟩ := hs
  obtain ⟨code', after', ht, ht'⟩ := ht after
  exact ⟨code ++ code', after', lex_append hs ht, lex_append hs' ht'⟩

/-- Code without literals is the same as itself. -/
theorem plain (h : isPlain s = true) (b : Before) : SameCode b s s := by
  induction s generalizing b with
  | nil => exact ⟨[], b, rfl, rfl⟩
  | cons c s ih =>
    obtain ⟨hc, hs⟩ := Bool.and_eq_true_iff.mp h
    have hfirst : SameCode b [c] [c] := ⟨_, _, lex_code hc b, lex_code hc b⟩
    exact hfirst.append (ih hs)

/-- What may stand apart may stand behind any character that is no part of a name. -/
theorem behind {c : Char} (hc : isMark c = true) (h : SameCode .apart s s') (b : Before) :
    SameCode b (c :: s) (c :: s') := by
  obtain ⟨hcode, hword⟩ := Bool.and_eq_true_iff.mp hc
  obtain ⟨code, after, hs, hs'⟩ := h
  have hapart : b.behind c = .apart := by simp [Before.behind, hword]
  have hfirst := lex_code hcode b
  rw [hapart] at hfirst
  exact ⟨_, after, lex_append hfirst hs, lex_append hfirst hs'⟩

theorem literal {body body' : List Char} (hb : b ≠ .joined)
    (h : lex .literal body = some ([], .literal)) (h' : lex .literal body' = some ([], .literal)) :
    SameCode b ('\x22' :: body ++ ['\x22']) ('\x22' :: body' ++ ['\x22']) :=
  ⟨_, _, lex_literal h hb, lex_literal h' hb⟩

theorem quote (text text' : List Char) :
    SameCode .apart (Literal.quote text) (Literal.quote text') :=
  literal nofun (lex_escape text) (lex_escape text')

end

/-- Pieces that may stand apart, joined by a text that ends in no part of a name. -/
theorem intercalate (front : List Char) {c : Char} (hfront : isPlain front = true)
    (hc : isMark c = true) {items items' : List (List Char)}
    (h : List.Forall₂ (SameCode .apart) items items') :
    SameCode .apart ((front ++ [c]).intercalate items) ((front ++ [c]).intercalate items') := by
  induction h with
  | nil => exact plain rfl _
  | @cons item item' items items' hitem hitems ih =>
    cases hitems with
    | nil => simpa using hitem
    | cons hnext hrest =>
      simp only [List.intercalate_cons_cons, List.append_assoc, List.singleton_append]
      exact hitem.append fun b => (plain hfront b).append (behind hc ih)

end SameCode

end Retrace.Locator
