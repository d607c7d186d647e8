import Retrace.Proofs.Json.TextBody
import Retrace.Proofs.Locator.Engine
import Retrace.Proofs.Number.Whole

/-!
# Selectors that can be read

The engine and the body of a part settle what it asks for: a choice by position,
a search by role, a search or a filter by one value, or, where no engine knows it,
a search by the part itself. This never fails. Only the values are decoded after
it, and two decoders may refuse one: a quoted text has to be a text of JSON, and
an attribute of a role that looks like a number has to be a whole number.
-/

namespace Retrace.Locator

/-- What a part asks for, before its values are decoded. -/
inductive Reading where
  | position (index : List Char)
  | role (body : List Char)
  | search (finder : Finder) (value : List Char)
  | filter (negated : Bool) (value : List Char)
  | whole
  deriving DecidableEq, Repr

namespace Reading

def ofAttribute (body : List Char) : Reading :=
  match attributeBody? body with
  | some (name, value) =>
    match Finder.ofAttribute? name with
    | some finder => search finder value
    | none => whole
  | none => whole

def ofEngine (body : List Char) (engine : String) : Reading :=
  match engine with
  | "internal:role" => role body
  | "internal:text" => search .text body
  | "internal:label" => search .label body
  | "internal:has-text" => filter false body
  | "internal:has-not-text" => filter true body
  | "internal:testid" | "internal:attr" => ofAttribute body
  | _ => whole

def of (part : List Char) : Reading :=
  if nthMark.isPrefixOf part then position (part.drop nthMark.length)
  else ofEngine (splitEngine part).2 (String.ofList (splitEngine part).1)

/-- The step for what a part asks for. -/
def run [Text.View] (part : List Char) : Reading → Except ValueFault Step
  | position index => .ok (readNth index)
  | role body => readRole body
  | search finder value => readFind finder value
  | filter negated value => .filter negated <$> (readMatcher value).mapError .json
  | whole => .ok (.locator part)

theorem run_ofAttribute [Text.View] (part body : List Char) :
    (ofAttribute body).run part = readEngine part body "internal:attr" := by
  simp only [readEngine, ofAttribute]
  cases attributeBody? body with
  | none => rfl
  | some found => cases h : Finder.ofAttribute? found.1 <;> simp [h, run]

theorem run_ofEngine [Text.View] (part body : List Char) (engine : String) :
    (ofEngine body engine).run part = readEngine part body engine := by
  unfold ofEngine
  split
  case h_6 => exact run_ofAttribute part body
  case h_7 => exact run_ofAttribute part body
  case h_8 => simp [readEngine, run, *]
  all_goals rfl

end Reading

/-- A part is read in two stages, of which only the second one can fail. -/
theorem readPart_eq_run [Text.View] (part : List Char) :
    readPart part = (Reading.of part).run part := by
  rw [readPart, Reading.of]
  split
  · rfl
  · exact (Reading.run_ofEngine part _ _).symm

/-! ## Values that are accepted -/

/-- A value that is not a quoted text, or one whose body is a text of JSON. -/
def IsText (value : List Char) : Prop :=
  ∀ body exact, quotedBody? value = some (body, exact) → Json.IsTextBody body

/-- A value of an attribute that is not read as a number, or one that is a whole number. -/
def IsNumeral (raw : List Char) : Prop :=
  looksNumeric raw = true → Numeral.IsDecimalRun (Numeral.takeSign raw).2

theorem exists_readPlain_iff [Text.View] (value : List Char) :
    (∃ p, readPlain value = .ok p) ↔ IsText value := by
  unfold readPlain IsText
  split
  case h_1 h => simp [h]
  case h_2 body exact h =>
    refine Iff.trans (Result.exists_bind_eq_ok fun _ => ⟨_, rfl⟩) ?_
    rw [Json.exists_readQuoted_iff]
    simp [h]

theorem isText_of_head? {value : List Char} (h : value.head? ≠ some '\x22') : IsText value := by
  intro body exact hbody
  unfold quotedBody? at hbody
  split at hbody
  · exact absurd rfl h
  · cases hbody

theorem head?_of_pattern? {value : List Char} {m : Matcher} (h : pattern? value = some m) :
    value.head? = some '/' := by
  obtain ⟨p, hp, -⟩ := Option.map_eq_some_iff.mp h
  unfold patternParts? at hp
  split at hp
  · rfl
  · cases hp

theorem exists_readMatcher_iff [Text.View] (value : List Char) :
    (∃ m, readMatcher value = .ok m) ↔ IsText value := by
  unfold readMatcher
  split
  case h_1 m h =>
    have htext : IsText value := isText_of_head? (by simp [head?_of_pattern? h])
    simpa using htext
  case h_2 =>
    refine Iff.trans (Result.exists_bind_eq_ok fun _ => ⟨_, rfl⟩) ?_
    exact exists_readPlain_iff value

theorem isDigit_of_looksNumeric {raw : List Char} (h : looksNumeric raw = true) :
    ∀ c ∈ raw, c = '-' ∨ Text.isDigit c = true := by
  intro c hc
  simp only [looksNumeric, Bool.and_eq_true, List.all_eq_true] at h
  rw [← List.takeWhile_append_dropWhile (p := fun c => decide (c = '-')) (l := raw)] at hc
  obtain hc | hc := List.mem_append.mp hc
  · exact .inl (by simpa using List.mem_takeWhile_imp hc)
  · exact .inr (h.2 c hc)

theorem looksNumeric_eq_false {raw : List Char} {c : Char} (hc : c ∈ raw) (hminus : c ≠ '-')
    (hdigit : Text.isDigit c = false) : looksNumeric raw = false := by
  rw [Bool.eq_false_iff]
  intro h
  obtain hc | hc := isDigit_of_looksNumeric h c hc
  · exact hminus hc
  · rw [hc] at hdigit
    cases hdigit

theorem exists_readInteger_iff_of_looksNumeric {raw : List Char} (h : looksNumeric raw = true) :
    (∃ n, Numeral.readInteger raw = .ok n) ↔ Numeral.IsDecimalRun (Numeral.takeSign raw).2 := by
  apply Numeral.exists_readInteger_iff
  · intro c hc
    obtain rfl | hdigit := isDigit_of_looksNumeric h c hc
    · decide
    · exact Numeral.isBlankAround_of_isDigit hdigit
  · intro hgap
    rw [looksNumeric_eq_false hgap (by decide) (by decide)] at h
    cases h

theorem exists_readValue_iff [Text.View] (raw : List Char) :
    (∃ value, readValue raw = .ok value) ↔ IsText raw ∧ IsNumeral raw := by
  have hnumeral {c : Char} (hc : raw.head? = some c) (hminus : c ≠ '-')
      (hdigit : Text.isDigit c = false) : IsNumeral raw := by
    intro h
    rw [looksNumeric_eq_false (List.mem_of_mem_head? hc) hminus hdigit] at h
    cases h
  unfold readValue
  by_cases hmark : raw.head? = some '\x22'
  · rw [if_pos hmark, and_iff_left (hnumeral hmark (by decide) (by decide)), ← exists_readPlain_iff]
    refine Iff.trans (Result.exists_bind_eq_ok fun _ => ⟨_, rfl⟩) ?_
    simp only [Result.mapError_eq_ok]
  · rw [if_neg hmark, and_iff_right (isText_of_head? hmark)]
    split
    case h_1 m h => simpa using hnumeral (head?_of_pattern? h) (by decide) (by decide)
    case h_2 =>
      split_ifs with htrue hfalse hlooks
      · subst htrue
        simpa using hnumeral (c := 't') (by decide) (by decide) (by decide)
      · subst hfalse
        simpa using hnumeral (c := 'f') (by decide) (by decide) (by decide)
      · rw [IsNumeral, imp_iff_right hlooks, ← exists_readInteger_iff_of_looksNumeric hlooks]
        cases Numeral.readInteger raw <;> simp
      · simp [IsNumeral, hlooks]

/-! ## Parts that are accepted -/

namespace Reading

/-- The decoders accept every value that they are given. -/
def IsAccepted : Reading → Prop
  | position _ => True
  | role body => ∀ found ∈ attributes body, IsText found.2 ∧ IsNumeral found.2
  | search _ value => IsText value
  | filter _ value => IsText value
  | whole => True

theorem exists_run_iff [Text.View] (part : List Char) (reading : Reading) :
    (∃ step, reading.run part = .ok step) ↔ reading.IsAccepted := by
  cases reading with
  | position index => simp [run, IsAccepted]
  | role body =>
    rw [run, readRole, IsAccepted]
    refine Iff.trans (Result.exists_bind_eq_ok fun _ => ⟨_, rfl⟩) ?_
    rw [Result.exists_mapM_eq_ok_iff]
    refine forall₂_congr fun found _ => ?_
    rw [← exists_readValue_iff]
    exact Result.exists_bind_eq_ok fun _ => ⟨_, rfl⟩
  | search finder value =>
    rw [run, readFind, Result.exists_map_eq_ok, IsAccepted, ← exists_readMatcher_iff]
    simp only [Result.mapError_eq_ok]
  | filter negated value =>
    rw [run, Result.exists_map_eq_ok, IsAccepted, ← exists_readMatcher_iff]
    simp only [Result.mapError_eq_ok]
  | whole => simp [run, IsAccepted]

end Reading

theorem writePart_of_whole [Text.View] {part : List Char} (h : Reading.of part = .whole) :
    writePart part = .ok (call "locator" [Literal.quote part]) := by
  rw [writePart, readPart_eq_run, h]
  rfl

/-- A selector is translated just if the decoders accept the values of all its parts. A part
that no engine knows has no value, and is searched for by itself. -/
theorem ofSelectorIn_accepted [Text.View] (selector : List Char) :
    ((∃ text, ofSelectorIn language selector = .ok text)
        ↔ ∀ part ∈ parts selector, (Reading.of part).IsAccepted)
      ∧ ∀ part ∈ parts selector, Reading.of part = .whole →
        writePart part = .ok (call "locator" [Literal.quote part]) := by
  refine ⟨?_, fun part _ h => writePart_of_whole h⟩
  simp only [ofSelectorIn_language, Result.mapError_eq_ok]
  refine Iff.trans (Result.exists_bind_eq_ok fun _ => ⟨_, rfl⟩) ?_
  rw [readSteps, Result.exists_mapM_eq_ok_iff]
  refine forall₂_congr fun part _ => ?_
  rw [readPart_eq_run, Reading.exists_run_iff]

/-- No part is searched for by itself because a decoder has refused its value. -/
theorem ofSelectorIn_refused :
    ofSelectorIn language "internal:text=\x22\\q\x22".toList
        = .error (.value (.json (.found .escape 1 2 1)))
      ∧ ofSelectorIn language "internal:role=button[level=--5]".toList
        = .error (.value (.number .malformed "--5".toList)) := by
  decide +kernel

end Retrace.Locator
