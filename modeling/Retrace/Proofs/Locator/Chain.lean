import Retrace.Locator.Step
import Retrace.Proofs.Result
import Retrace.Proofs.Text.Join

/-!
# Chains of selectors

Quotes are followed on their own, apart from the cutting of a chain. Where the
first of two chains leaves no quote open, a separator between them is found, so
the segments of the whole are those of the two. Each part becomes one step of
its own, and the expression of a joined chain is that of its pieces.

A first chain that ends in all of the separator but its last space would take
that space from the separator behind it. This is the only way in which a
separator can stand across the seam.
-/

namespace Retrace.Locator

/-! ## Open quotes -/

/-- The mark of the quote that is open behind some characters. -/
def quoteAfter : Option Char → List Char → Option Char
  | open?, [] => open?
  | some mark, ['\\'] => some mark
  | some mark, '\\' :: _ :: rest => quoteAfter (some mark) rest
  | some mark, c :: rest => quoteAfter (if c = mark then none else some mark) rest
  | none, c :: rest => quoteAfter (if isQuoteMark c then some c else none) rest

/-- A separator without its last space. -/
def seam : List Char := [' ', '>', '>']

/-- Every separator stands inside a quote. -/
def IsWhole (open? : Option Char) (s : List Char) : Prop :=
  ∀ before after, s = before ++ separator ++ after → quoteAfter open? before ≠ none

/-- A selector that is one part of a chain and stays one inside longer chains. -/
structure IsPart (part : List Char) : Prop where
  ne_nil : part ≠ []
  trimmed : Text.strip part = part
  closed : quoteAfter none part = none
  whole : IsWhole none part
  noSeam : ¬ seam <:+ part

theorem quoteAfter_inside {d : Char} (hd : d ≠ '\\') (mark : Char) (rest : List Char) :
    quoteAfter (some mark) (d :: rest)
      = quoteAfter (if d = mark then none else some mark) rest := by
  rw [quoteAfter] <;> simp [hd]

/-! ## Segments -/

theorem segments_ne_nil (open? : Option Char) (s : List Char) : segments open? s ≠ [] := by
  fun_cases segments open? s <;> simp_all [extendFirst_ne_nil]

theorem segments_escape (mark d : Char) (rest : List Char) :
    segments (some mark) ('\\' :: d :: rest)
      = extendFirst ['\\', d] (segments (some mark) rest) := by
  simp [segments]

theorem segments_inside {d : Char} (hd : d ≠ '\\') (mark : Char) (rest : List Char) :
    segments (some mark) (d :: rest)
      = extendFirst [d] (segments (if d = mark then none else some mark) rest) := by
  cases rest <;> simp [segments, hd]

theorem segments_mark {d : Char} (hd : isQuoteMark d = true) (rest : List Char) :
    segments none (d :: rest) = extendFirst [d] (segments (some d) rest) := by
  have hspace : d ≠ ' ' := by
    rintro rfl
    exact absurd hd (by decide)
  rw [segments, if_pos hd]
  intro _ h
  exact absurd h hspace

theorem segments_separator (rest : List Char) :
    segments none (separator ++ rest) = [] :: segments none rest := by
  simp [segments, separator, isQuoteMark]

theorem segments_other {c : Char} {rest : List Char} (hc : ¬ isQuoteMark c = true)
    (hs : ¬ separator <+: c :: rest) :
    segments none (c :: rest) = extendFirst [c] (segments none rest) := by
  rw [segments, if_neg hc]
  rintro rest rfl rfl
  exact hs (List.prefix_append separator rest)

theorem extendFirst_append {l : List (List Char)} (h : l ≠ []) (front : List Char)
    (m : List (List Char)) : extendFirst front (l ++ m) = extendFirst front l ++ m := by
  obtain ⟨segment, rest, rfl⟩ := List.exists_cons_of_ne_nil h
  rfl

/-- A separator that begins before the seam ends before it, or the seam is missing its space. -/
theorem separator_prefix_of_append {s b : List Char} (hs : ¬ seam <:+ s) (hne : s ≠ [])
    (h : separator <+: s ++ separator ++ b) : separator <+: s := by
  match s, hs, hne with
  | [_], _, _ => simp [separator] at h
  | [_, _], _, _ => simp [separator] at h
  | [x, y, z], hs, _ =>
    simp only [separator, List.cons_append, List.nil_append, List.cons_prefix_cons] at h
    obtain ⟨rfl, rfl, rfl, -⟩ := h
    exact absurd List.suffix_rfl hs
  | x :: y :: z :: w :: rest, _, _ =>
    simp only [separator, List.cons_append, List.cons_prefix_cons] at h ⊢
    simpa using h

theorem not_suffix_of_cons {t s : List Char} {c : Char} (h : ¬ t <:+ c :: s) : ¬ t <:+ s := by
  intro hs
  apply h
  exact hs.trans (List.suffix_cons c s)

/-- Where no quote is left open, a chain is cut at a separator that follows it. -/
theorem segments_append_separator (open? : Option Char) (a b : List Char)
    (ha : quoteAfter open? a = none) (hs : ¬ seam <:+ a) :
    segments open? (a ++ separator ++ b) = segments open? a ++ segments none b := by
  fun_induction segments open? a with
  | case1 open? =>
    simp only [quoteAfter] at ha
    subst ha
    exact segments_separator b
  | case2 mark => simp [quoteAfter] at ha
  | case3 mark d rest ih =>
    simp only [quoteAfter] at ha
    rw [← extendFirst_append (segments_ne_nil _ _),
      ← ih ha (not_suffix_of_cons (not_suffix_of_cons hs))]
    exact segments_escape mark d _
  | case4 d rest mark hd ih =>
    rw [quoteAfter_inside hd] at ha
    rw [← extendFirst_append (segments_ne_nil _ _), ← ih ha (not_suffix_of_cons hs)]
    exact segments_inside hd mark _
  | case5 d rest hd ih =>
    rw [quoteAfter, if_pos hd] at ha
    rw [← extendFirst_append (segments_ne_nil _ _), ← ih ha (not_suffix_of_cons hs)]
    exact segments_mark hd _
  | case6 rest _ ih =>
    have hr : ¬ seam <:+ rest := by
      intro h
      apply hs
      exact h.trans (List.suffix_append separator rest)
    change segments none (separator ++ (rest ++ separator ++ b)) = _
    rw [segments_separator, ih ha hr, List.cons_append]
  | case7 c rest hother hc ih =>
    rw [quoteAfter, if_neg hc] at ha
    have hsep : ¬ separator <+: c :: (rest ++ separator ++ b) := by
      intro h
      obtain ⟨after, h⟩ := separator_prefix_of_append hs (List.cons_ne_nil c rest) h
      obtain ⟨rfl, rfl⟩ := List.cons_eq_cons.mp h
      exact hother after rfl rfl
    rw [← extendFirst_append (segments_ne_nil _ _), ← ih ha (not_suffix_of_cons hs)]
    exact segments_other hc hsep

theorem isWhole_iff {open? : Option Char} {s : List Char} :
    IsWhole open? s ↔
      ∀ i < s.length, separator <+: s.drop i → quoteAfter open? (s.take i) ≠ none := by
  constructor
  · rintro h i - ⟨after, hi⟩
    apply h (s.take i) after
    rw [List.append_assoc, hi, List.take_append_drop]
  · rintro h before after rfl
    have hi := h before.length (by simp [separator])
    rw [List.append_assoc, List.take_left, List.drop_left] at hi
    exact hi (List.prefix_append separator after)

instance (open? : Option Char) (s : List Char) : Decidable (IsWhole open? s) :=
  decidable_of_iff _ isWhole_iff.symm

theorem IsWhole.of_append {open? open' : Option Char} (front : List Char) {s : List Char}
    (h : IsWhole open? (front ++ s))
    (hq : ∀ before, quoteAfter open? (front ++ before) = quoteAfter open' before) :
    IsWhole open' s := by
  rintro before after rfl
  rw [← hq]
  exact h (front ++ before) after (by simp)

/-- A text without a separator outside quotes is one segment. -/
theorem segments_of_isWhole {open? : Option Char} {s : List Char} (h : IsWhole open? s) :
    segments open? s = [s] := by
  fun_induction segments open? s with
  | case1 => rfl
  | case2 => rfl
  | case3 mark d rest ih =>
    rw [ih (IsWhole.of_append ['\\', d] h fun _ => rfl)]
    rfl
  | case4 d rest mark hd ih =>
    rw [ih (IsWhole.of_append [d] h (quoteAfter_inside hd mark))]
    rfl
  | case5 d rest hd ih =>
    rw [ih (IsWhole.of_append [d] h fun _ => by simp [quoteAfter, hd])]
    rfl
  | case6 rest => exact absurd rfl (h [] rest rfl)
  | case7 c rest _ hc ih =>
    rw [ih (IsWhole.of_append [c] h fun _ => by simp [quoteAfter, hc])]
    rfl

/-! ## Parts -/

theorem parts_append_separator {a : List Char} (ha : quoteAfter none a = none)
    (hs : ¬ seam <:+ a) (b : List Char) : parts (a ++ separator ++ b) = parts a ++ parts b := by
  rw [parts, segments_append_separator none a b ha hs]
  simp [parts]

theorem parts_of_isWhole {part : List Char} (hne : part ≠ []) (htrimmed : Text.strip part = part)
    (h : IsWhole none part) : parts part = [part] := by
  simp [parts, segments_of_isWhole h, htrimmed, hne]

theorem IsPart.parts_eq {part : List Char} (h : IsPart part) : parts part = [part] :=
  parts_of_isWhole h.ne_nil h.trimmed h.whole

/-- The parts of a joined chain are the pieces it was joined from. -/
theorem parts_intercalate {pieces : List (List Char)} (h : ∀ p ∈ pieces, IsPart p) :
    parts (separator.intercalate pieces) = pieces := by
  induction pieces with
  | nil => rfl
  | cons p pieces ih =>
    have hp : IsPart p := h p (by simp)
    cases pieces with
    | nil => simpa using hp.parts_eq
    | cons q pieces =>
      rw [List.intercalate_cons_cons, parts_append_separator hp.closed hp.noSeam, hp.parts_eq,
        ih fun r hr => h r (List.mem_cons_of_mem p hr)]
      rfl

/-! ## Expressions -/

/-- The step that a part becomes, as it is written. -/
def writePart [Text.View] (part : List Char) : Except Fault (List Char) :=
  ((readPart part).map Step.write).mapError .value

theorem mapM_writePart [Text.View] (parts : List (List Char)) :
    parts.mapM writePart = ((parts.mapM readPart).map (List.map Step.write)).mapError .value := by
  induction parts with
  | nil => rfl
  | cons part parts ih =>
    rw [List.mapM_cons, List.mapM_cons, ih, writePart]
    cases readPart part with
    | error fault => rfl
    | ok step => cases parts.mapM readPart <;> rfl

/-- Every part is written by itself, and the steps are joined by dots. -/
theorem ofSelectorIn_eq_mapM [Text.View] (selector : List Char) :
    ofSelectorIn language selector = ['.'].intercalate <$> (parts selector).mapM writePart := by
  rw [ofSelectorIn_language, mapM_writePart, ofSelector, readSteps]
  cases (parts selector).mapM readPart <;> rfl

theorem IsPart.ofSelectorIn_eq [Text.View] {part : List Char} (h : IsPart part) :
    ofSelectorIn language part = writePart part := by
  rw [ofSelectorIn_eq_mapM, h.parts_eq]
  cases hw : writePart part <;> simp [hw]

theorem mapM_ne_nil [Text.View] {parts texts : List (List Char)} (hp : parts ≠ [])
    (h : parts.mapM writePart = .ok texts) : texts ≠ [] := by
  rintro rfl
  exact hp (List.length_eq_zero_iff.mp (Result.length_of_mapM_eq_ok h).symm)

/-- The expression of a chain is that of its pieces with a dot between them, and the first
piece that has none decides on the fault. -/
theorem ofSelectorIn_separator [Text.View] {a b : List Char} (ha : quoteAfter none a = none)
    (hs : ¬ seam <:+ a) (hpa : parts a ≠ []) (hpb : parts b ≠ []) {pieces : List (List Char)}
    (hp : ∀ p ∈ pieces, IsPart p) :
    (ofSelectorIn language (a ++ separator ++ b) = do
        let first ← ofSelectorIn language a
        let second ← ofSelectorIn language b
        return first ++ '.' :: second)
      ∧ ofSelectorIn language (separator.intercalate pieces)
        = ['.'].intercalate <$> pieces.mapM (ofSelectorIn language) := by
  constructor
  · rw [ofSelectorIn_eq_mapM, ofSelectorIn_eq_mapM, ofSelectorIn_eq_mapM,
      parts_append_separator ha hs, List.mapM_append]
    cases hx : (parts a).mapM writePart with
    | error fault => rfl
    | ok xs =>
      cases hy : (parts b).mapM writePart with
      | error fault => rfl
      | ok ys =>
        have hxs : xs ≠ [] := mapM_ne_nil hpa hx
        have hys : ys ≠ [] := mapM_ne_nil hpb hy
        change Except.ok (['.'].intercalate (xs ++ ys)) = .ok _
        rw [Text.intercalate_append hxs hys, List.append_assoc]
        rfl
  · have hmap : pieces.mapM (ofSelectorIn language) = pieces.mapM writePart := by
      apply Result.mapM_congr
      intro p h
      exact (hp p h).ofSelectorIn_eq
    rw [hmap, ofSelectorIn_eq_mapM, parts_intercalate hp]

theorem ofSelectorIn_separator_quoted :
    ofSelectorIn language
        ("internal:text=\x22a >> b\x22".toList ++ separator ++ "nth=0".toList)
      = .ok "get_by_text(\x22a >> b\x22).first".toList
    ∧ ofSelectorIn language (separator.intercalate ["'>> '".toList, "nth=-1".toList])
      = .ok "locator(\x22'>> '\x22).last".toList := by
  have hp : ∀ p ∈ ["'>> '".toList, "nth=-1".toList], IsPart p := by
    intro p hp
    simp only [List.mem_cons, List.not_mem_nil, or_false] at hp
    obtain rfl | rfl := hp
    · exact ⟨by decide +kernel, by decide +kernel, by decide +kernel, by decide +kernel,
        by decide +kernel⟩
    · exact ⟨by decide +kernel, by decide +kernel, by decide +kernel, by decide +kernel,
        by decide +kernel⟩
  have h := ofSelectorIn_separator (a := "internal:text=\x22a >> b\x22".toList)
    (b := "nth=0".toList) (by decide +kernel) (by decide +kernel) (by decide +kernel)
    (by decide +kernel) hp
  rw [h.1, h.2]
  exact ⟨by decide +kernel, by decide +kernel⟩

end Retrace.Locator
