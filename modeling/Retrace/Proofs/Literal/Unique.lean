import Retrace.Proofs.Literal.RoundTrip
import Retrace.Proofs.Number.Whole

/-!
# Literals are read in one way

Behind a literal nothing follows, or a comma does. A literal with a comma behind
it is no literal, so of two texts that begin with a literal and go on like this
the literals end at the same place. Therefore the arguments of a call are found
again in their list, and a text stands for one datum.
-/

namespace Retrace.Literal

open Numeral Double

/-- A text is cut in one way at the first place of a mark. -/
theorem cut_injective {front front' rest rest' : List Char} {mark : Char} (h : mark ∉ front)
    (h' : mark ∉ front') (heq : front ++ mark :: rest = front' ++ mark :: rest') :
    front = front' ∧ rest = rest' := by
  induction front generalizing front' with
  | nil =>
    cases front' with
    | nil => exact ⟨rfl, (List.cons_eq_cons.mp heq).2⟩
    | cons c front' =>
      obtain ⟨rfl, -⟩ := List.cons_eq_cons.mp heq
      exact absurd List.mem_cons_self h'
  | cons c front ih =>
    cases front' with
    | nil =>
      obtain ⟨rfl, -⟩ := List.cons_eq_cons.mp heq
      exact absurd List.mem_cons_self h
    | cons c' front' =>
      obtain ⟨rfl, hrest⟩ := List.cons_eq_cons.mp heq
      rw [List.mem_cons, not_or] at h h'
      obtain ⟨rfl, hr⟩ := ih h.2 h'.2 hrest
      exact ⟨rfl, hr⟩

/-- A literal is cut off its text in one way. -/
theorem quote_append_injective {text text' rest rest' : List Char}
    (h : quote text ++ rest = quote text' ++ rest') : text = text' ∧ rest = rest' := by
  rw [quote_append, quote_append] at h
  have hread := congrArg (fun s => takeText .quotation s.tail) h
  simp only [List.tail_cons, takeText_quotation] at hread
  exact Prod.mk.inj (Option.some.inj hread)

theorem quote_injective {text text' : List Char} (h : quote text = quote text') : text = text' := by
  have hsame : quote text ++ [] = quote text' ++ [] := by rw [h]
  exact (quote_append_injective hsame).1

/-! ## Values -/

/-- What follows a value among others: nothing, or a comma first. -/
def Follows (rest : List Char) : Prop := ∀ c ∈ rest.head?, c = ','

theorem Follows.stops {rest : List Char} (h : Follows rest) : Stops rest := by
  intro c hc
  rw [h c hc]
  rfl

section

variable {s s' rest rest' : List Char} {d d' : Datum}

theorem Reads.unique (h : Reads s d) (h' : Reads s d') : d = d' :=
  Option.some.inj (h.read?.symm.trans h'.read?)

/-- A value is no longer one with a comma behind it. -/
theorem Reads.eq_nil_of_append (h : Reads s d) (h' : Reads (s ++ rest) d') (hrest : Follows rest) :
    rest = [] := by
  cases rest with
  | nil => rfl
  | cons c rest =>
    obtain rfl : c = ',' := hrest c rfl
    have hwhole := h' [] [] (by simp [Stops])
    rw [List.append_nil, h [] _ hrest.stops, readFrom_mark rfl, readFrom_nil] at hwhole
    cases hwhole

/-- Two values with a comma or nothing behind them end at the same place. -/
theorem Reads.append_injective (h : Reads s d) (h' : Reads s' d') (hrest : Follows rest)
    (hrest' : Follows rest') (heq : s ++ rest = s' ++ rest') : s = s' ∧ rest = rest' := by
  have hprefix {s s' rest rest' between : List Char} {d d' : Datum} (h : Reads s d)
      (h' : Reads s' d') (hrest : Follows rest) (hs : s' = s ++ between)
      (hr : rest = between ++ rest') : s = s' ∧ rest = rest' := by
    subst hs
    have hbetween : Follows between := by
      intro c hc
      apply hrest c
      rw [hr, List.head?_append, Option.mem_def.mp hc]
      rfl
    obtain rfl := h.eq_nil_of_append h' hbetween
    exact ⟨(List.append_nil s).symm, hr⟩
  obtain ⟨between, hs, hr⟩ | ⟨between, hs, hr⟩ := List.append_eq_append_iff.mp heq
  · exact hprefix h h' hrest hs hr
  · obtain ⟨hs', hr'⟩ := hprefix h' h hrest' hs hr
    exact ⟨hs'.symm, hr'.symm⟩

end

/-- The literal that is written for a datum is read as the datum. -/
theorem reads_of_hasLiteral [Text.View] {d : Datum} {s : List Char} (h : HasLiteral d)
    (hs : ofDatum d = .ok s) : Reads s (restored d) := by
  obtain ⟨t, ht, -, hread⟩ := ofDatum_readsBack h
  obtain rfl : t = s := Except.ok.inj (ht.symm.trans hs)
  exact hread

/-- A literal is written for one datum, up to what is left of doubles without a fraction. -/
theorem restored_injective [Text.View] {d d' : Datum} {s : List Char} (h : HasLiteral d)
    (h' : HasLiteral d') (hs : ofDatum d = .ok s) (hs' : ofDatum d' = .ok s) :
    restored d = restored d' :=
  (reads_of_hasLiteral h hs).unique (reads_of_hasLiteral h' hs')

/-- Of a double its value is left. -/
theorem sameValue_of_restored {x y : Double} (hx : x.isFinite = true)
    (h : restored (.double x) = restored (.double y)) : x.sameValue y = true := by
  rw [restored, restored] at h
  split at h
  · next n hn =>
    split at h
    · next k hk =>
      obtain rfl : n = k := Datum.int.inj h
      exact sameValue_of_toInt? hn hk
    · cases h
  · split at h
    · cases h
    · obtain rfl : x = y := Datum.double.inj h
      exact sameValue_self hx

/-- A whole number that is written is not too long. -/
theorem natAbs_lt_of_ofInt {n : Int} {s : List Char} (h : ofInt n = .ok s) :
    n.natAbs < 10 ^ digitLimit := by
  have hpower (k : Nat) : tenTo k = 10 ^ k := rfl
  rw [← hpower]
  unfold ofInt writeInteger? at h
  -- the bound is a large number that must not be computed
  generalize tenTo digitLimit = bound at h ⊢
  by_contra hlong
  rw [if_pos (Nat.le_of_not_lt hlong)] at h
  cases h

/-! ## Named arguments -/

/-- The text of a named argument: a name, an equals sign and a value. -/
def ArgumentReads (s : List Char) (a : List Char × Datum) : Prop :=
  '=' ∉ a.1 ∧ ∃ t, s = a.1 ++ '=' :: t ∧ Reads t a.2

/-- What stands behind the first of some texts that commas separate. -/
def behind : List (List Char) → List Char
  | [] => []
  | texts => ',' :: ' ' :: commaSeparated texts

theorem commaSeparated_cons (t : List Char) (texts : List (List Char)) :
    commaSeparated (t :: texts) = t ++ behind texts := by
  cases texts with
  | nil => simp [commaSeparated, behind]
  | cons u texts => simp [commaSeparated, behind, List.intercalate_cons_cons]

theorem follows_behind (texts : List (List Char)) : Follows (behind texts) := by
  cases texts <;> simp [Follows, behind]

theorem behind_injective {texts texts' : List (List Char)} (h : behind texts = behind texts') :
    commaSeparated texts = commaSeparated texts' := by
  cases texts <;> cases texts' <;> simp_all [behind]

/-- A list of named arguments is read in one way. -/
theorem arguments_injective {texts texts' : List (List Char)}
    {arguments arguments' : List (List Char × Datum)}
    (h : List.Forall₂ ArgumentReads texts arguments)
    (h' : List.Forall₂ ArgumentReads texts' arguments')
    (heq : commaSeparated texts = commaSeparated texts') : arguments = arguments' := by
  induction h generalizing texts' arguments' with
  | nil =>
    cases h' with
    | nil => rfl
    | cons ha =>
      obtain ⟨-, v, rfl, -⟩ := ha
      rw [commaSeparated_cons] at heq
      simp [commaSeparated] at heq
  | cons ha hrest ih =>
    obtain ⟨hname, v, rfl, hv⟩ := ha
    cases h' with
    | nil =>
      rw [commaSeparated_cons] at heq
      simp [commaSeparated] at heq
    | cons ha' hrest' =>
      obtain ⟨hname', v', rfl, hv'⟩ := ha'
      rw [commaSeparated_cons, commaSeparated_cons, List.append_assoc, List.append_assoc,
        List.cons_append, List.cons_append] at heq
      obtain ⟨hsame, hvalues⟩ := cut_injective hname hname' heq
      obtain ⟨rfl, hbehind⟩ :=
        hv.append_injective hv' (follows_behind _) (follows_behind _) hvalues
      rw [ih hrest' (behind_injective hbehind), Prod.ext hsame (hv.unique hv')]

end Retrace.Literal
