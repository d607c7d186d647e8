import Retrace.Proofs.Literal.OneLine
import Retrace.Proofs.Locator.Engine

/-!
# Expressions on one line

What a selector is cut into has no character that the selector does not have.
Texts are written as literals, and what is written as it stands comes from the
selector. So the expression of a selector on one line is on one line.
-/

namespace Retrace.Locator

open Literal Text

/-! ## Parts -/

theorem isOneLine_extendFirst {front : List Char} {l : List (List Char)}
    (hfront : isOneLine front = true) (h : ∀ s ∈ l, isOneLine s = true) :
    ∀ s ∈ extendFirst front l, isOneLine s = true := by
  cases l with
  | nil => simpa [extendFirst] using hfront
  | cons s l =>
    obtain ⟨hs, hl⟩ := List.forall_mem_cons.mp h
    rw [extendFirst, List.forall_mem_cons, isOneLine_append, hfront, hs]
    exact ⟨rfl, hl⟩

theorem isOneLine_segments {open? : Option Char} {s : List Char} (h : isOneLine s = true) :
    ∀ segment ∈ segments open? s, isOneLine segment = true := by
  fun_induction segments open? s with
  | case1 => simp
  | case2 => simpa using h
  | case3 mark d rest ih =>
    simp only [isOneLine_cons, Bool.and_eq_true] at h
    apply isOneLine_extendFirst _ (ih h.2.2)
    simp [h.1, h.2.1]
  | case4 d rest mark hd ih =>
    simp only [isOneLine_cons, Bool.and_eq_true] at h
    apply isOneLine_extendFirst _ (ih h.2)
    simp [h.1]
  | case5 d rest hd ih =>
    simp only [isOneLine_cons, Bool.and_eq_true] at h
    apply isOneLine_extendFirst _ (ih h.2)
    simp [h.1]
  | case6 rest _ ih =>
    simp only [isOneLine_cons, Bool.and_eq_true] at h
    exact List.forall_mem_cons.mpr ⟨rfl, ih h.2.2.2.2⟩
  | case7 c rest _ _ ih =>
    simp only [isOneLine_cons, Bool.and_eq_true] at h
    apply isOneLine_extendFirst _ (ih h.2)
    simp [h.1]

theorem isOneLine_parts {selector : List Char} (h : isOneLine selector = true) :
    ∀ part ∈ parts selector, isOneLine part = true := by
  intro part hpart
  obtain ⟨segment, hsegment, rfl⟩ := List.mem_map.mp (List.mem_of_mem_filter hpart)
  exact isOneLine_of_subset (strip_subset segment) (isOneLine_segments h segment hsegment)

/-! ## Patterns -/

theorem eq_of_splitAtLastSlash {s before after : List Char}
    (h : splitAtLastSlash s = some (before, after)) : s = before ++ '/' :: after := by
  induction s generalizing before with
  | nil => cases h
  | cons c s ih =>
    rw [splitAtLastSlash] at h
    split at h
    · next hs =>
      cases h
      rw [ih hs]
      rfl
    · split at h
      · next hc =>
        cases h
        rw [hc]
        rfl
      · cases h

theorem subset_of_patternParts? {s body flags : List Char}
    (h : patternParts? s = some (body, flags)) : body ⊆ s := by
  unfold patternParts? at h
  split at h
  · next rest =>
    split at h
    · next body' flags' hsplit =>
      dsimp only at h
      split at h
      · cases h
        rw [eq_of_splitAtLastSlash hsplit]
        intro c hc
        simp [hc]
      · cases h
    · cases h
  · cases h

theorem isOneLine_unescapeSlashes {s : List Char} (h : isOneLine s = true) :
    isOneLine (unescapeSlashes s) = true := by
  fun_induction unescapeSlashes s with
  | case1 rest ih =>
    simp only [isOneLine_cons, Bool.and_eq_true] at h ⊢
    exact ⟨h.2.1, ih h.2.2⟩
  | case2 c rest _ ih =>
    simp only [isOneLine_cons, Bool.and_eq_true] at h ⊢
    exact ⟨h.1, ih h.2⟩
  | case3 => rfl

theorem isOneLine_escapeMarks {s : List Char} (h : isOneLine s = true) :
    isOneLine (escapeMarks s) = true := by
  apply isOneLine_flatMap
  intro c hc
  have hbreak := isOneLine_iff.mp h c hc
  split
  · decide
  · simp [hbreak]

/-! ## Values -/

theorem isOneLine_write_pattern {source : List Char} (h : isOneLine source = true)
    (ignoreCase : Bool) : isOneLine (Matcher.pattern source ignoreCase).write = true := by
  have hfront : isOneLine "re.compile(r\x22".toList = true := by decide
  have hflag : isOneLine (if ignoreCase then ", re.IGNORECASE" else "").toList = true := by
    cases ignoreCase <;> decide
  rw [Matcher.write_pattern]
  simp only [isOneLine_append, isOneLine_cons, hfront, hflag, h]
  decide

theorem isOneLine_of_pattern? {s : List Char} {m : Matcher} (hs : isOneLine s = true)
    (h : pattern? s = some m) : isOneLine m.write = true := by
  obtain ⟨⟨body, flags⟩, hparts, rfl⟩ := Option.map_eq_some_iff.mp h
  have hbody : isOneLine body = true := isOneLine_of_subset (subset_of_patternParts? hparts) hs
  exact isOneLine_write_pattern (isOneLine_escapeMarks (isOneLine_unescapeSlashes hbody)) _

theorem isOneLine_write_text (value : List Char) (exact : Bool) :
    isOneLine (Matcher.text value exact).write = true :=
  isOneLine_quote value

theorem isOneLine_readMatcher [Text.View] {s : List Char} {m : Matcher} (hs : isOneLine s = true)
    (h : readMatcher s = .ok m) : isOneLine m.write = true := by
  unfold readMatcher at h
  split at h
  · next m' hpattern =>
    cases h
    exact isOneLine_of_pattern? hs hpattern
  · obtain ⟨⟨value, exact⟩, -, h⟩ := Result.bind_eq_ok.mp h
    cases h
    exact isOneLine_write_text value exact

theorem isOneLine_readValue [Text.View] {s : List Char} {v : Value} (hs : isOneLine s = true)
    (h : readValue s = .ok v) : isOneLine v.write = true := by
  unfold readValue at h
  split at h
  · obtain ⟨⟨value, exact⟩, -, h⟩ := Result.bind_eq_ok.mp h
    cases h
    exact isOneLine_write_text value exact
  · split at h
    · next m hpattern =>
      cases h
      exact isOneLine_of_pattern? hs hpattern
    · split_ifs at h
      · cases h
        decide
      · cases h
        decide
      · split at h
        · next n _ =>
          cases h
          exact isOneLine_of_number (isNumeralChar_toString n)
        · cases h
      · cases h
        exact isOneLine_write_text s false

/-! ## Attributes -/

theorem eq_of_takeQuoted {s body rest : List Char} (h : takeQuoted s = some (body, rest)) :
    s = body ++ '\x22' :: rest := by
  fun_induction takeQuoted s generalizing body with
  | case1 => cases h
  | case2 =>
    cases h
    rfl
  | case3 => cases h
  | case4 => cases h
  | case5 d rest' _ hd ih =>
    obtain ⟨⟨inner, after⟩, hinner, h⟩ := Option.map_eq_some_iff.mp h
    cases h
    rw [ih hinner]
    rfl
  | case6 c rest' hmark hescape ih =>
    obtain ⟨⟨inner, after⟩, hinner, h⟩ := Option.map_eq_some_iff.mp h
    cases h
    rw [ih hinner]
    rfl

/-- A quoted text together with a piece of what stands behind its mark. -/
theorem isOneLine_quoted {s body after : List Char} (hs : isOneLine ('\x22' :: s) = true)
    (h : takeQuoted s = some (body, after)) (n : Nat) :
    isOneLine ('\x22' :: body ++ '\x22' :: after.take n) = true := by
  rw [eq_of_takeQuoted h] at hs
  simp only [isOneLine_append, isOneLine_cons, Bool.and_eq_true] at hs
  have htake : isOneLine (after.take n) = true :=
    isOneLine_of_subset (List.take_subset n after) hs.2.2.2
  simp [hs.2.1, htake, hs.1]

theorem isOneLine_takeQuotedValue {s value rest : List Char} (hs : isOneLine s = true)
    (h : takeQuotedValue s = some (value, rest)) : isOneLine value = true := by
  unfold takeQuotedValue at h
  split at h
  · split at h
    · next body after hbody =>
      dsimp only at h
      split at h
      · cases h
        exact isOneLine_quoted hs hbody _
      · cases h
    · cases h
  · cases h

theorem isOneLine_takeBareValue {s value rest : List Char} (hs : isOneLine s = true)
    (h : takeBareValue s = some (value, rest)) : isOneLine value = true := by
  unfold takeBareValue at h
  split at h
  · cases h
    exact isOneLine_of_subset (List.takeWhile_subset _) hs
  · cases h

theorem isOneLine_takeAttribute {s rest : List Char} {found : List Char × List Char}
    (hs : isOneLine s = true) (h : takeAttribute s = some (found, rest)) :
    isOneLine found.1 = true ∧ isOneLine found.2 = true := by
  obtain ⟨after, rfl, -, hvalue⟩ := takeAttribute_eq_some h
  simp only [isOneLine_append, isOneLine_cons, Bool.and_eq_true] at hs
  refine ⟨hs.1.2, ?_⟩
  obtain hquoted | hbare := hvalue
  · exact isOneLine_takeQuotedValue hs.2.2 hquoted
  · exact isOneLine_takeBareValue hs.2.2 hbare

theorem isOneLine_attributesAfter {skip : Nat} {s : List Char} (hs : isOneLine s = true) :
    ∀ found ∈ attributesAfter skip s, isOneLine found.1 = true ∧ isOneLine found.2 = true := by
  fun_induction attributesAfter skip s with
  | case1 => exact fun _ h => absurd h List.not_mem_nil
  | case2 skip c rest ih =>
    rw [isOneLine_cons, Bool.and_eq_true] at hs
    exact ih hs.2
  | case3 c rest found after htake ih =>
    have hrest := hs
    rw [isOneLine_cons, Bool.and_eq_true] at hrest
    intro other hother
    obtain rfl | hother := List.mem_cons.mp hother
    · exact isOneLine_takeAttribute hs htake
    · exact ih hrest.2 other hother
  | case4 c rest _ ih =>
    rw [isOneLine_cons, Bool.and_eq_true] at hs
    exact ih hs.2

theorem isOneLine_quotedAttribute? {s value : List Char} (hs : isOneLine s = true)
    (h : quotedAttribute? s = some value) : isOneLine value = true := by
  unfold quotedAttribute? at h
  split at h
  · split at h
    · next body after hbody =>
      dsimp only at h
      split at h
      · cases h
        exact isOneLine_quoted hs hbody _
      · cases h
    · cases h
  · cases h

theorem isOneLine_patternAttribute? {s value : List Char} (hs : isOneLine s = true)
    (h : patternAttribute? s = some value) : isOneLine value = true := by
  have hfinal : isOneLine (dropFinalBreak s) = true := by
    unfold dropFinalBreak
    split
    · exact isOneLine_of_subset (List.dropLast_subset s) hs
    · exact hs
  unfold patternAttribute? at h
  dsimp only at h
  split at h
  · split at h
    · split at h
      · cases h
      · cases h
        exact isOneLine_of_subset (List.dropLast_subset _) hfinal
    · cases h
  · cases h

theorem isOneLine_attributeBody? {s name value : List Char} (hs : isOneLine s = true)
    (h : attributeBody? s = some (name, value)) : isOneLine value = true := by
  obtain ⟨after, rfl, -, hvalue⟩ := attributeBody?_eq_some h
  simp only [isOneLine_append, isOneLine_cons, Bool.and_eq_true] at hs
  obtain hquoted | hpattern := hvalue
  · exact isOneLine_quotedAttribute? hs.2.2 hquoted
  · exact isOneLine_patternAttribute? hs.2.2 hpattern

theorem isOneLine_exactArgument (exact : Bool) :
    ∀ a ∈ (if exact then [exactArgument] else []), isOneLine a = true := by
  cases exact <;> decide

theorem isOneLine_writeAttribute {a : Attribute} (hname : isOneLine a.name = true)
    (hvalue : isOneLine a.value.write = true) : ∀ s ∈ a.write, isOneLine s = true := by
  have hrenamed : isOneLine (a.name.map fun c => if c = '-' then '_' else c) = true := by
    rw [isOneLine_iff] at hname ⊢
    intro c hc
    obtain ⟨d, hd, rfl⟩ := List.mem_map.mp hc
    split
    · decide
    · exact hname d hd
  have hargument : isOneLine ((a.name.map fun c => if c = '-' then '_' else c)
      ++ '=' :: a.value.write) = true := by
    simp only [isOneLine_append, isOneLine_cons, hrenamed, hvalue]
    decide
  intro s hs
  unfold Attribute.write at hs
  obtain rfl | hs := List.mem_cons.mp hs
  · exact hargument
  · exact isOneLine_exactArgument _ s hs

/-! ## Steps -/

theorem isOneLine_call {method : String} {arguments : List (List Char)}
    (hmethod : isOneLine method.toList = true) (h : ∀ a ∈ arguments, isOneLine a = true) :
    isOneLine (call method arguments) = true := by
  simp only [call, isOneLine_append, isOneLine_cons, hmethod, isOneLine_commaSeparated h]
  decide

theorem isOneLine_find (finder : Finder) {m : Matcher} (h : isOneLine m.write = true) :
    isOneLine (Step.find finder m).write = true := by
  have hmethod : isOneLine finder.method.toList = true := by
    cases finder <;> decide
  apply isOneLine_call hmethod
  exact List.forall_mem_cons.mpr ⟨h, isOneLine_exactArgument _⟩

theorem isOneLine_filter (negated : Bool) {m : Matcher} (h : isOneLine m.write = true) :
    isOneLine (Step.filter negated m).write = true := by
  have hkeyword : isOneLine (if negated then "has_not_text=" else "has_text=").toList = true := by
    cases negated <;> decide
  apply isOneLine_call (by decide)
  intro a ha
  rw [List.mem_singleton.mp ha, isOneLine_append, hkeyword, h]
  rfl

theorem isOneLine_readFind [Text.View] {finder : Finder} {raw : List Char} {step : Step}
    (hraw : isOneLine raw = true) (h : readFind finder raw = .ok step) :
    isOneLine step.write = true := by
  obtain ⟨m, hm, rfl⟩ := Result.map_eq_ok.mp h
  exact isOneLine_find finder (isOneLine_readMatcher hraw (Result.mapError_eq_ok.mp hm))

theorem isOneLine_readFilter [Text.View] {negated : Bool} {raw : List Char} {step : Step}
    (hraw : isOneLine raw = true)
    (h : Step.filter negated <$> (readMatcher raw).mapError ValueFault.json = .ok step) :
    isOneLine step.write = true := by
  obtain ⟨m, hm, rfl⟩ := Result.map_eq_ok.mp h
  exact isOneLine_filter negated (isOneLine_readMatcher hraw (Result.mapError_eq_ok.mp hm))

theorem isOneLine_readRole [Text.View] {body : List Char} {step : Step}
    (hbody : isOneLine body = true) (h : readRole body = .ok step) :
    isOneLine step.write = true := by
  obtain ⟨found, hfound, h⟩ := Result.bind_eq_ok.mp h
  cases h
  apply isOneLine_call (by decide)
  intro argument hargument
  obtain rfl | hargument := List.mem_cons.mp hargument
  · exact isOneLine_quote _
  · obtain ⟨a, ha, hargument⟩ := List.mem_flatMap.mp hargument
    obtain ⟨raw, hraw, hread⟩ := Result.exists_of_mapM_eq_ok hfound ha
    obtain ⟨hname, hrawValue⟩ := isOneLine_attributesAfter hbody raw hraw
    obtain ⟨value, hvalue, hread⟩ := Result.bind_eq_ok.mp hread
    cases hread
    exact isOneLine_writeAttribute hname (isOneLine_readValue hrawValue hvalue) argument hargument

/-- A part that no engine reads is written as a literal. -/
theorem isOneLine_locator (part : List Char) : isOneLine (Step.locator part).write = true := by
  apply isOneLine_call (by decide)
  intro a ha
  rw [List.mem_singleton.mp ha]
  exact isOneLine_quote part

theorem isOneLine_readNth {index : List Char} (h : isOneLine index = true) :
    isOneLine (readNth index).write = true := by
  unfold readNth
  split_ifs
  · decide
  · decide
  · apply isOneLine_call (by decide)
    simpa using h

theorem isOneLine_readEngine [Text.View] {part body : List Char} {engine : String} {step : Step}
    (hbody : isOneLine body = true) (h : readEngine part body engine = .ok step) :
    isOneLine step.write = true := by
  have hattribute (h : readEngine part body "internal:attr" = .ok step) :
      isOneLine step.write = true := by
    simp only [readEngine] at h
    split at h
    · next name value hvalue =>
      split at h
      · exact isOneLine_readFind (isOneLine_attributeBody? hbody hvalue) h
      · cases h
        exact isOneLine_locator part
    · cases h
      exact isOneLine_locator part
  unfold readEngine at h
  split at h
  · exact isOneLine_readRole hbody h
  · exact isOneLine_readFind hbody h
  · exact isOneLine_readFind hbody h
  · exact isOneLine_readFilter hbody h
  · exact isOneLine_readFilter hbody h
  · exact hattribute h
  · exact hattribute h
  · cases h
    exact isOneLine_locator part

theorem isOneLine_readPart [Text.View] {part : List Char} {step : Step}
    (hpart : isOneLine part = true) (h : readPart part = .ok step) :
    isOneLine step.write = true := by
  unfold readPart at h
  split at h
  · cases h
    exact isOneLine_readNth (isOneLine_of_subset (List.drop_subset _ part) hpart)
  · apply isOneLine_readEngine _ h
    apply isOneLine_of_subset _ hpart
    exact List.Subset.trans (List.drop_subset _ _) (List.dropWhile_sublist _).subset

/-- A selector on one line has an expression on one line. -/
theorem isOneLine_ofSelector [Text.View] {selector s : List Char}
    (hselector : isOneLine selector = true) (h : ofSelector selector = .ok s) :
    isOneLine s = true := by
  obtain ⟨steps, hsteps, h⟩ := Result.bind_eq_ok.mp h
  cases h
  apply isOneLine_intercalate (by decide)
  intro text htext
  obtain ⟨step, hstep, rfl⟩ := List.mem_map.mp htext
  obtain ⟨part, hpart, hread⟩ := Result.exists_of_mapM_eq_ok hsteps hstep
  exact isOneLine_readPart (isOneLine_parts hselector part hpart) hread

end Retrace.Locator
