import Mathlib.Data.List.Basic
import Retrace.Proofs.Text.Surrogate
import Retrace.Text.Blank

/-!
# What is seen in every view

A view is inert if it shows halves of surrogate pairs by characters that nothing is done with.
A text that is made of others by looking at ASCII characters and white space only has the same
code points in every inert view. So have the texts in a list, and so has the result of steps that
may fail: if it is a fault, it is the same fault in every inert view.
-/

namespace Retrace.Text

/-! ## Inert views -/

/-- Neither an ASCII character nor white space. -/
def IsInert (c : Char) : Prop := 0x80 ≤ c.toNat ∧ isBlank c = false

/-- A view that shows halves by inert characters. -/
structure InertView extends View where
  isInert : ∀ n, isHalf n = true → IsInert (ofHalf n)

theorem isInert_of_lt {c : Char} (h : 0x3000 < c.toNat) : IsInert c := by
  refine ⟨by omega, ?_⟩
  rw [← Bool.not_eq_true, isBlank, inRanges_eq_true_iff]
  rintro ⟨r, hr, -, hle⟩
  have hbound : ∀ r ∈ blankRanges, r.2 ≤ 0x3000 := by decide
  have := hbound r hr
  omega

theorem IsInert.ne {c d : Char} (h : IsInert c) (hd : d.toNat < 0x80) : c ≠ d := by
  rintro rfl
  exact absurd h.1 (Nat.not_le.mpr hd)

/-- Half a pair is moved to a place far behind white space. -/
theorem isInert_ofNat {n base : Nat} (hn : isHalf n = true) (hbase : 0x10000 ≤ base)
    (hle : base ≤ 0x100000) : IsInert (Char.ofNat (base + n)) := by
  have hrange := (isHalf_iff n).mp hn
  apply isInert_of_lt
  rw [toNat_ofNat (.inr ⟨by omega, by omega⟩)]
  omega

namespace InertView

/-- The characters of a text in a view. -/
def shown (v : InertView) (points : List Nat) : List Char := points.map (@viewed v.toView)

def lower : InertView where
  toView := .lower
  isInert _ hn := isInert_ofNat hn (by decide) (by decide)

def upper : InertView where
  toView := .upper
  isInert _ hn := isInert_ofNat hn (by decide) (by decide)

theorem shown_pointsOf (v : InertView) (s : List Char) : v.shown (pointsOf s) = s :=
  @map_viewed_pointsOf v.toView s

/-- What a test says of inert characters it says of a code point in every view. -/
theorem exists_test {p : Char → Bool} {b : Bool} (hp : ∀ c, IsInert c → p c = b) :
    ∃ q : Nat → Bool, ∀ v : InertView, ∀ n, p (@viewed v.toView n) = q n := by
  refine ⟨fun n => if isHalf n then b else p (Char.ofNat n), fun v n => ?_⟩
  dsimp only
  by_cases hn : isHalf n = true
  · rw [if_pos hn, @viewed_of_isHalf v.toView n hn]
    exact hp _ (v.isInert n hn)
  · rw [if_neg hn, @viewed_of_not_isHalf v.toView n hn]

end InertView

variable {α β ε ε' : Type} {P : (InertView → α) → Prop} {Q : (InertView → β) → Prop}

/-- The same in every inert view. -/
def IsFixed (a : InertView → α) : Prop := ∃ b, ∀ v, a v = b

/-! ## Texts -/

/-- The text has the same code points in every inert view. -/
def IsShown (text : InertView → List Char) : Prop :=
  ∃ points, ∀ v, text v = InertView.shown v points

namespace IsShown

variable {text text' : InertView → List Char}

theorem const (s : List Char) : IsShown fun _ => s :=
  ⟨pointsOf s, fun v => (v.shown_pointsOf s).symm⟩

theorem shown (points : List Nat) : IsShown fun v => v.shown points := ⟨points, fun _ => rfl⟩

theorem append (h : IsShown text) (h' : IsShown text') : IsShown fun v => text v ++ text' v := by
  obtain ⟨points, h⟩ := h
  obtain ⟨points', h'⟩ := h'
  simp only [h, h']
  exact ⟨points ++ points', fun v => List.map_append.symm⟩

theorem cons (c : Char) (h : IsShown text) : IsShown fun v => c :: text v := (const [c]).append h

/-- The code points of a text that has the same ones in every view can be told. -/
theorem exists_points (h : IsShown text) :
    ∃ points, (∀ n ∈ points, IsPoint n) ∧ ∀ v, text v = InertView.shown v points := by
  obtain ⟨points, h⟩ := h
  refine ⟨points.map fun n => if isHalf n then n else (Char.ofNat n).toNat, ?_, fun v => ?_⟩
  · rw [List.forall_mem_map]
    intro n _
    split
    · next hn => exact .inr hn
    · exact .inl (Char.ofNat n).valid
  · rw [h, InertView.shown, InertView.shown, List.map_map]
    refine List.map_congr_left fun n _ => ?_
    rw [Function.comp_apply]
    split
    · rfl
    · next hn => rw [@viewed_toNat v.toView, @viewed_of_not_isHalf v.toView n hn]

/-- What copies inert characters copies halves. -/
theorem flatMap {f : Char → List Char} (hf : ∀ c, IsInert c → f c = [c]) (h : IsShown text) :
    IsShown fun v => (text v).flatMap f := by
  obtain ⟨points, h⟩ := h
  simp only [h]
  refine ⟨points.flatMap fun n => if isHalf n then [n] else pointsOf (f (Char.ofNat n)), ?_⟩
  intro v
  change (points.map _).flatMap f = (points.flatMap _).map _
  rw [List.flatMap_map, List.map_flatMap]
  congr 1
  funext n
  split
  · next hn =>
    rw [List.map_singleton, @viewed_of_isHalf v.toView n hn]
    exact hf _ (v.isInert n hn)
  · next hn =>
    rw [@viewed_of_not_isHalf v.toView n hn]
    exact (v.shown_pointsOf _).symm

/-- The start of a text is left out, if a test agrees about inert characters. -/
theorem dropWhile {p : Char → Bool} {b : Bool} (hp : ∀ c, IsInert c → p c = b)
    (h : IsShown text) : IsShown fun v => (text v).dropWhile p := by
  obtain ⟨points, h⟩ := h
  obtain ⟨q, hq⟩ := InertView.exists_test hp
  simp only [h]
  refine ⟨points.dropWhile q, fun v => ?_⟩
  have htest : p ∘ (@viewed v.toView) = q := funext (hq v)
  change (points.map _).dropWhile p = _
  rw [List.dropWhile_map, htest]
  rfl

theorem reverse (h : IsShown text) : IsShown fun v => (text v).reverse := by
  obtain ⟨points, h⟩ := h
  simp only [h]
  exact ⟨points.reverse, fun v => List.map_reverse.symm⟩

theorem dropLast (h : IsShown text) : IsShown fun v => (text v).dropLast := by
  obtain ⟨points, h⟩ := h
  simp only [h]
  exact ⟨points.dropLast, fun v => List.map_dropLast.symm⟩

theorem stripEnd (h : IsShown text) : IsShown fun v => Text.stripEnd (text v) :=
  (h.reverse.dropWhile fun _ hc => hc.2).reverse

theorem strip (h : IsShown text) : IsShown fun v => Text.strip (text v) :=
  (h.dropWhile fun _ hc => hc.2).stripEnd

/-- Whether a text is a given one of ASCII characters is the same in every inert view. -/
theorem eq_or_ne {t : List Char} (ht : (t.all fun c => c.toNat < 0x80) = true)
    (h : IsShown text) : (∀ v, text v = t) ∨ ∀ v, text v ≠ t := by
  obtain ⟨points, h⟩ := h
  by_cases hhalf : ∃ n ∈ points, isHalf n = true
  · obtain ⟨n, hn, hhalf⟩ := hhalf
    refine .inr fun v hv => ?_
    have hmem : @viewed v.toView n ∈ t := by
      rw [← hv, h]
      exact List.mem_map_of_mem hn
    rw [@viewed_of_isHalf v.toView n hhalf] at hmem
    exact (v.isInert n hhalf).ne (of_decide_eq_true (List.all_eq_true.mp ht _ hmem)) rfl
  · have hplain : ∀ v, text v = points.map Char.ofNat := by
      intro v
      rw [h]
      exact List.map_congr_left fun n hn =>
        @viewed_of_not_isHalf v.toView n fun hn' => hhalf ⟨n, hn, hn'⟩
    by_cases heq : points.map Char.ofNat = t
    · exact .inl fun v => (hplain v).trans heq
    · exact .inr fun v hv => heq ((hplain v).symm.trans hv)

/-- Whether a text ends in a given ASCII character is the same in every inert view. -/
theorem getLast?_eq_or_ne {c : Char} (hc : c.toNat < 0x80) (h : IsShown text) :
    (∀ v, (text v).getLast? = some c) ∨ ∀ v, (text v).getLast? ≠ some c := by
  obtain ⟨points, h⟩ := h
  obtain ⟨q, hq⟩ := InertView.exists_test fun d hd => decide_eq_false (hd.ne hc)
  have hlast (v : InertView) :
      (text v).getLast? = some c ↔ ∃ n, points.getLast? = some n ∧ q n = true := by
    rw [h, InertView.shown, List.getLast?_map, Option.map_eq_some_iff]
    simp only [← hq v, decide_eq_true_eq]
  by_cases hpoints : ∃ n, points.getLast? = some n ∧ q n = true
  · exact .inl fun v => (hlast v).mpr hpoints
  · exact .inr fun v hv => hpoints ((hlast v).mp hv)

end IsShown

/-! ## Lists -/

/-- The items of the lists, of which there are as many in every view, have a property. -/
def Each (P : (InertView → α) → Prop) (as : InertView → List α) : Prop :=
  ∃ families : List (InertView → α), (∀ a ∈ families, P a) ∧ ∀ v, as v = families.map fun a => a v

namespace Each

variable {as as' : InertView → List α}

theorem nil : Each P fun _ => [] := ⟨[], by simp, fun _ => rfl⟩

theorem cons {a : InertView → α} (ha : P a) (h : Each P as) : Each P fun v => a v :: as v := by
  obtain ⟨families, hP, h⟩ := h
  simp only [h]
  exact ⟨a :: families, List.forall_mem_cons.mpr ⟨ha, hP⟩, fun _ => rfl⟩

theorem append (h : Each P as) (h' : Each P as') : Each P fun v => as v ++ as' v := by
  obtain ⟨families, hP, h⟩ := h
  obtain ⟨families', hP', h'⟩ := h'
  simp only [h, h']
  exact ⟨families ++ families', List.forall_mem_append.mpr ⟨hP, hP'⟩,
    fun _ => List.map_append.symm⟩

theorem const {l : List α} (h : ∀ a ∈ l, P fun _ => a) : Each P fun _ => l := by
  induction l with
  | nil => exact nil
  | cons a l ih =>
    obtain ⟨ha, hl⟩ := List.forall_mem_cons.mp h
    exact (ih hl).cons ha

theorem flatMap {f : α → List β} (hf : ∀ a, P a → Each Q fun v => f (a v)) (h : Each P as) :
    Each Q fun v => (as v).flatMap f := by
  obtain ⟨families, hP, h⟩ := h
  simp only [h]
  clear h
  induction families with
  | nil => exact nil
  | cons a families ih =>
    obtain ⟨ha, hfamilies⟩ := List.forall_mem_cons.mp hP
    exact (hf a ha).append (ih hfamilies)

theorem map {f : α → β} (hf : ∀ a, P a → Q fun v => f (a v)) (h : Each P as) :
    Each Q fun v => (as v).map f := by
  simp only [List.map_eq_flatMap]
  exact h.flatMap fun a ha => nil.cons (hf a ha)

theorem length (h : Each P as) : IsFixed fun v => (as v).length := by
  obtain ⟨families, -, h⟩ := h
  simp only [h, List.length_map]
  exact ⟨families.length, fun _ => rfl⟩

theorem flatMap_const {f : InertView → α → List β} (hf : ∀ a, Each Q fun v => f v a)
    (l : List α) : Each Q fun v => l.flatMap (f v) := by
  induction l with
  | nil => exact nil
  | cons a l ih =>
    simp only [List.flatMap_cons]
    exact (hf a).append ih

/-- Items are left out if they fail a test that all views agree on. -/
theorem filter {p : α → Bool} (hp : ∀ a, P a → IsFixed fun v => p (a v)) (h : Each P as) :
    Each P fun v => (as v).filter p := by
  obtain ⟨families, hP, h⟩ := h
  simp only [h]
  clear h
  induction families with
  | nil => exact nil
  | cons a families ih =>
    obtain ⟨ha, hfamilies⟩ := List.forall_mem_cons.mp hP
    obtain ⟨b, hb⟩ := hp a ha
    simp only [List.map_cons, List.filter_cons, hb]
    cases b with
    | false => exact ih hfamilies
    | true => exact (ih hfamilies).cons ha

end Each

theorem IsShown.intercalate {texts : InertView → List (List Char)} (separator : List Char)
    (h : Each IsShown texts) : IsShown fun v => separator.intercalate (texts v) := by
  obtain ⟨families, hshown, h⟩ := h
  simp only [h]
  clear h
  induction families with
  | nil => exact const []
  | cons text families ih =>
    obtain ⟨htext, hfamilies⟩ := List.forall_mem_cons.mp hshown
    cases families with
    | nil => simpa only [List.map_cons, List.map_nil, List.intercalate_singleton] using htext
    | cons next families =>
      simp only [List.map_cons, List.intercalate_cons_cons] at ih ⊢
      exact (htext.append (const separator)).append (ih hfamilies)

/-! ## Steps that may fail -/

/-- Either the same fault in every inert view, or values with a property. -/
def IsUniform (P : (InertView → α) → Prop) (x : InertView → Except ε α) : Prop :=
  (∃ fault, ∀ v, x v = .error fault) ∨ ∃ a, P a ∧ ∀ v, x v = .ok (a v)

namespace IsUniform

variable {x : InertView → Except ε α}

theorem error (fault : ε) : IsUniform P fun _ => (.error fault : Except ε α) :=
  .inl ⟨fault, fun _ => rfl⟩

theorem ok {a : InertView → α} (h : P a) : IsUniform P fun v => (.ok (a v) : Except ε α) :=
  .inr ⟨a, h, fun _ => rfl⟩

/-- A step that no view takes part in. -/
theorem const (x : Except ε α) (h : ∀ a, P fun _ => a) : IsUniform P fun _ => x := by
  cases x with
  | error fault => exact error fault
  | ok a => exact ok (h a)

theorem bind {k : InertView → α → Except ε β} (h : IsUniform P x)
    (hk : ∀ a, P a → IsUniform Q fun v => k v (a v)) : IsUniform Q fun v => x v >>= k v := by
  obtain ⟨fault, h⟩ | ⟨a, ha, h⟩ := h
  · simp only [h]
    exact error fault
  · simp only [h]
    exact hk a ha

theorem map {f : α → β} (hf : ∀ a, P a → Q fun v => f (a v)) (h : IsUniform P x) :
    IsUniform Q fun v => f <$> x v := by
  obtain ⟨fault, h⟩ | ⟨a, ha, h⟩ := h
  · simp only [h]
    exact error fault
  · simp only [h]
    exact ok (hf a ha)

theorem mapError (f : ε → ε') (h : IsUniform P x) : IsUniform P fun v => (x v).mapError f := by
  obtain ⟨fault, h⟩ | ⟨a, ha, h⟩ := h
  · simp only [h]
    exact error (f fault)
  · simp only [h]
    exact ok ha

theorem mapM {step : InertView → α → Except ε β}
    (hstep : ∀ a, IsUniform Q fun v => step v a) (l : List α) :
    IsUniform (Each Q) fun v => l.mapM (step v) := by
  induction l with
  | nil => exact ok .nil
  | cons a l ih =>
    simp only [List.mapM_cons]
    apply (hstep a).bind
    intro b hb
    apply ih.bind
    intro bs hbs
    exact ok (hbs.cons hb)

end IsUniform

end Retrace.Text
