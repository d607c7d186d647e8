import Retrace.Proofs.Literal.Leaf
import Retrace.Proofs.Literal.Options
import Retrace.Proofs.Result
import Retrace.Proofs.Script.Token
import Retrace.Script.Call

/-!
# The literals of arguments

An argument is a literal value or a list of named options. It is alike another
one of the same form, whatever the texts in it, and its literals are these texts
in their order.
-/

namespace Retrace.Script

open Literal Recording

/-- Values that are alike where no name stands in front of them. -/
structure AlikeValue (s s' : List Char) (a a' : List (List Char)) : Prop where
  left : s ≠ []
  right : s' ≠ []
  alike : AlikeFrom false s s' a a'

section

variable {s s' t t' : List Char} {a a' b b' : List (List Char)}

theorem AlikeValue.quote (text text' : List Char) :
    AlikeValue (Literal.quote text) (Literal.quote text') [text] [text'] where
  left := by simp [quote_eq]
  right := by simp [quote_eq]
  alike := .quote text text'

theorem Alike.value (h : Alike s s' a a') (hs : s ≠ []) (hs' : s' ≠ []) : AlikeValue s s' a a' :=
  ⟨hs, hs', h false⟩

theorem AlikeValue.append (hs : AlikeValue s s' a a') (ht : Alike t t' b b') :
    AlikeValue (s ++ t) (s' ++ t') (a ++ b) (a' ++ b') where
  left := by simp [hs.left]
  right := by simp [hs.right]
  alike := hs.alike.append ht

theorem AlikeValue.behind {c : Char} (h : AlikeValue s s' a a') (hc : isMark c = true) :
    Alike (c :: s) (c :: s') a a' :=
  h.alike.behind hc

/-- A value behind its name. -/
theorem AlikeValue.named {name : List Char} (hname : isPlain name = true)
    (h : AlikeValue s s' a a') : AlikeValue (name ++ '=' :: s) (name ++ '=' :: s') a a' := by
  have hvalue := h.behind (c := '=') (by decide +kernel)
  exact ((Alike.code hname).append hvalue).value (by simp) (by simp)

end

/-! ## Separated items -/

/-- Items that are alike one by one, with their texts. -/
inductive AlikeItems : List (List Char) → List (List Char) → List (List Char) →
    List (List Char) → Prop
  | nil : AlikeItems [] [] [] []
  | cons {s s' : List Char} {items items' a a' b b' : List (List Char)}
    (h : AlikeValue s s' a a') (hs : AlikeItems items items' b b') :
    AlikeItems (s :: items) (s' :: items') (a ++ b) (a' ++ b')

theorem AlikeItems.append {items items' rest rest' a a' b b' : List (List Char)}
    (h : AlikeItems items items' a a') (hrest : AlikeItems rest rest' b b') :
    AlikeItems (items ++ rest) (items' ++ rest') (a ++ b) (a' ++ b') := by
  induction h with
  | nil => exact hrest
  | cons hs _ ih =>
    rw [List.append_assoc, List.append_assoc]
    exact .cons hs ih

theorem AlikeItems.quotes {texts texts' : List String} (h : texts.length = texts'.length) :
    AlikeItems (texts.map fun t => quote t.toList) (texts'.map fun t => quote t.toList)
      (texts.map String.toList) (texts'.map String.toList) := by
  induction texts generalizing texts' with
  | nil =>
    cases texts' with
    | nil => exact .nil
    | cons t texts' => cases h
  | cons t texts ih =>
    cases texts' with
    | nil => cases h
    | cons t' texts' => exact .cons (.quote t.toList t'.toList) (ih (Nat.succ.inj h))

/-- Separators that end in no part of a name keep the items apart. -/
theorem AlikeItems.separated {items items' a a' : List (List Char)}
    (h : AlikeItems items items' a a') (front : List Char) {c : Char}
    (hfront : isPlain front = true) (hc : isMark c = true) (hne : items ≠ []) :
    AlikeValue ((front ++ [c]).intercalate items) ((front ++ [c]).intercalate items') a a' := by
  induction h with
  | nil => exact absurd rfl hne
  | @cons s s' items items' a a' b b' hs hrest ih =>
    cases hrest with
    | nil => simpa using hs
    | cons ht hrest =>
      have hbehind := (Alike.code hfront).append ((ih (by simp)).behind hc)
      have h := hs.append hbehind
      rw [List.intercalate_cons_cons, List.intercalate_cons_cons]
      simpa using h

/-! ## Values -/

theorem isCode_of_isNumeralChar {c : Char} (h : Double.isNumeralChar c = true) :
    isCode c = true :=
  isCode_of_kind (by decide) (by decide) (by decide) h

theorem alikeValue_of_number {s : List Char} (h : ∀ c ∈ s, Double.isNumeralChar c = true)
    (hs : s ≠ []) : AlikeValue s s [] [] := by
  have hplain : isPlain s = true := by
    apply List.all_eq_true.mpr
    intro c hc
    exact isCode_of_isNumeralChar (h c hc)
  exact (Alike.code hplain).value hs hs

theorem ofData_texts (texts : List String) :
    ofData (texts.map .text) = .ok (texts.map fun t => quote t.toList) := by
  induction texts with
  | nil => rfl
  | cons t texts ih =>
    rw [List.map_cons, ofData, ofDatum_text, ih]
    rfl

theorem ofDatum_texts (texts : List String) :
    ofDatum (textsDatum texts)
      = .ok ('[' :: commaSeparated (texts.map fun t => quote t.toList) ++ [']']) := by
  rw [textsDatum, ofDatum, ofData_texts]
  rfl

theorem alikeValue_texts {texts texts' : List String} (h : texts.length = texts'.length) :
    AlikeValue ('[' :: commaSeparated (texts.map fun t => quote t.toList) ++ [']'])
      ('[' :: commaSeparated (texts'.map fun t => quote t.toList) ++ [']'])
      (texts.map String.toList) (texts'.map String.toList) := by
  have hclose : Alike [']'] [']'] [] [] := .of_isCode (by decide)
  cases texts with
  | nil =>
    obtain rfl : texts' = [] := List.length_eq_zero_iff.mp h.symm
    exact (Alike.code (by decide)).value (by simp) (by simp)
  | cons t texts =>
    have hitems := (AlikeItems.quotes h).separated [','] (c := ' ') (by decide)
      (by decide +kernel) (by simp)
    have h := (hitems.behind (c := '[') (by decide +kernel)).append hclose
    simp only [List.append_nil] at h
    exact h.value (by simp) (by simp)

/-- One text stands alone and several are a list, the same on both sides. -/
theorem ofDatum_oneOrMany {texts texts' : List String} (h : texts.length = texts'.length) :
    ∃ s s', ofDatum (oneOrMany texts) = .ok s ∧ ofDatum (oneOrMany texts') = .ok s' ∧
      AlikeValue s s' (texts.map String.toList) (texts'.map String.toList) := by
  match texts, texts', h with
  | [t], [t'], _ => exact ⟨_, _, ofDatum_text t, ofDatum_text t', .quote t.toList t'.toList⟩
  | [], [], _ => exact ⟨_, _, ofDatum_texts [], ofDatum_texts [], alikeValue_texts rfl⟩
  | t :: u :: rest, t' :: u' :: rest', h =>
    exact ⟨_, _, ofDatum_texts _, ofDatum_texts _, alikeValue_texts h⟩

theorem alikeValue_ofInt {n : Int} {s : List Char} (h : ofInt n = .ok s) :
    AlikeValue s s [] [] := by
  rw [ofInt_eq_ok h]
  exact alikeValue_of_number (isNumeralChar_toString n) (toString_ne_nil n)

theorem alikeValue_ofDouble {x : Double} {s : List Char} (h : ofDouble x = .ok s) :
    AlikeValue s s [] [] := by
  obtain ⟨hchars, hne⟩ := ofDouble_eq_ok h
  exact alikeValue_of_number hchars hne

theorem ofEntries_cons_eq_ok {name : String} {d : Datum} {es : List (Datum × Datum)}
    {items : List (List Char)} (h : ofEntries ((.text name, d) :: es) = .ok items) :
    ∃ value rest, ofDatum d = .ok value ∧ ofEntries es = .ok rest ∧
      items = (quote name.toList ++ ':' :: value) :: rest := by
  rw [ofEntries] at h
  obtain ⟨text, hname, h⟩ := Result.bind_eq_ok.mp h
  obtain ⟨value, hvalue, h⟩ := Result.bind_eq_ok.mp h
  obtain ⟨rest, hrest, h⟩ := Result.bind_eq_ok.mp h
  cases hname
  cases h
  exact ⟨value, rest, hvalue, hrest, rfl⟩

/-- A position has the names of its two places as literals. -/
theorem alikeValue_point {p : Point} {s : List Char} (h : ofDatum p.toDatum = .ok s) :
    AlikeValue s s [['x'], ['y']] [['x'], ['y']] := by
  have hentry (name : String) {x : Double} {value : List Char}
      (hvalue : ofDatum (.double x) = .ok value) :
      AlikeValue (quote name.toList ++ ':' :: value) (quote name.toList ++ ':' :: value)
        [name.toList] [name.toList] := by
    rw [ofDatum] at hvalue
    have h := (AlikeValue.quote name.toList name.toList).append
      ((alikeValue_ofDouble hvalue).behind (c := ':') (by decide +kernel))
    simpa using h
  rw [Point.toDatum, record, ofDatum] at h
  obtain ⟨items, hitems, h⟩ := Result.bind_eq_ok.mp h
  obtain ⟨x, rest, hx, hrest, rfl⟩ := ofEntries_cons_eq_ok hitems
  obtain ⟨y, last, hy, hlast, rfl⟩ := ofEntries_cons_eq_ok hrest
  cases hlast
  cases h
  have hitems := (AlikeItems.cons (hentry "x" hx) (.cons (hentry "y" hy) .nil)).separated
    [] (c := ',') rfl (by decide +kernel) (by simp)
  have hclose : Alike ['\x7d'] ['\x7d'] [] [] := .of_isCode (by decide)
  exact ((hitems.behind (c := '\x7b') (by decide +kernel)).append hclose).value
    (by simp) (by simp)

/-! ## The options of a click -/

/-- At most one option, of a known name and with known texts in its value. -/
structure Optional (options : Literal.Options) (name : String) (texts : List (List Char)) :
    Prop where
  names : (options.map Prod.fst).Sublist [name]
  present : ∀ o ∈ options, o.2.isNone = false
  alike : ∀ items, options.mapM (Options.item {}) = .ok items → AlikeItems items items texts texts

theorem Optional.none (name : String) : Optional [] name [] := by
  refine ⟨by simp, by simp, ?_⟩
  intro items h
  cases h
  exact .nil

theorem Optional.some {name : String} {d : Datum} {texts : List (List Char)}
    (hname : isPlain (Naming.snakeCase name.toList) = true) (hpresent : d.isNone = false)
    (hd : ∀ s, ofDatum d = .ok s → AlikeValue s s texts texts) :
    Optional [(name, d)] name texts := by
  refine ⟨by simp, by simpa using hpresent, ?_⟩
  intro items h
  obtain _ | ⟨hitem, _ | _⟩ := Result.mapM_eq_ok.mp h
  obtain ⟨value, hvalue, hitem⟩ := Result.bind_eq_ok.mp hitem
  cases hitem
  have h := AlikeItems.cons ((hd value hvalue).named hname) .nil
  rwa [List.append_nil] at h

def buttonOptions (c : Click) : Literal.Options :=
  if c.button = .left then [] else [("button", .text c.button.name)]

def countOptions (c : Click) : Literal.Options :=
  if 2 < c.clickCount then [("clickCount", .int c.clickCount)] else []

def modifierOptions (c : Click) : Literal.Options :=
  if c.modifiers = [] then [] else [("modifiers", modifiersDatum c.modifiers)]

def positionOptions (c : Click) : Literal.Options :=
  match c.position with
  | .some p => [("position", p.toDatum)]
  | .none => []

def buttonTexts (c : Click) : List (List Char) :=
  if c.button = .left then [] else [c.button.name.toList]

def modifierTexts (c : Click) : List (List Char) :=
  (c.modifiers.map Modifier.name).map String.toList

def positionTexts (c : Click) : List (List Char) :=
  match c.position with
  | .some _ => [['x'], ['y']]
  | .none => []

/-- The texts of the literals in the options of a click. -/
def optionTexts (c : Click) : List (List Char) :=
  buttonTexts c ++ modifierTexts c ++ positionTexts c

theorem optional_button (c : Click) : Optional (buttonOptions c) "button" (buttonTexts c) := by
  unfold buttonOptions buttonTexts
  split
  · exact .none _
  · apply Optional.some (by decide) rfl
    intro s hs
    cases hs
    exact .quote _ _

theorem optional_count (c : Click) : Optional (countOptions c) "clickCount" [] := by
  unfold countOptions
  split
  · apply Optional.some (by decide) rfl
    intro s hs
    rw [ofDatum] at hs
    exact alikeValue_ofInt hs
  · exact .none _

theorem optional_modifiers (c : Click) :
    Optional (modifierOptions c) "modifiers" (modifierTexts c) := by
  unfold modifierOptions modifierTexts
  split
  case isTrue h =>
    rw [h]
    exact .none _
  case isFalse =>
    apply Optional.some (by decide) rfl
    intro s hs
    rw [modifiersDatum, ofDatum_texts] at hs
    cases hs
    exact alikeValue_texts rfl

theorem optional_position (c : Click) :
    Optional (positionOptions c) "position" (positionTexts c) := by
  unfold positionOptions positionTexts
  split
  · apply Optional.some (by decide) rfl
    intro s hs
    exact alikeValue_point hs
  · exact .none _

/-- The options of a click in the order of their names. -/
theorem canonical_clickOptions (c : Click) :
    (clickOptions c).canonical
      = buttonOptions c ++ countOptions c ++ modifierOptions c ++ positionOptions c := by
  have hgiven : clickOptions c
      = buttonOptions c ++ modifierOptions c ++ countOptions c ++ positionOptions c := rfl
  have hpresent : ∀ o ∈ clickOptions c, (!o.2.isNone) = true := by
    intro o ho
    rw [hgiven] at ho
    simp only [List.mem_append] at ho
    rw [Bool.not_eq_true']
    obtain ((ho | ho) | ho) | ho := ho
    · exact (optional_button c).present o ho
    · exact (optional_modifiers c).present o ho
    · exact (optional_count c).present o ho
    · exact (optional_position c).present o ho
  apply Options.canonical_eq_of_perm
  · rw [List.filter_eq_self.mpr hpresent, hgiven]
    apply List.Perm.append_right
    rw [List.append_assoc, List.append_assoc]
    exact List.perm_append_comm.append_left _
  · have hnames : List.Pairwise (fun a b : String => a < b)
        (["button"] ++ ["clickCount"] ++ ["modifiers"] ++ ["position"]) := by
      decide
    have hsublist : List.Sublist
        ((buttonOptions c ++ countOptions c ++ modifierOptions c ++ positionOptions c).map Prod.fst)
        (["button"] ++ ["clickCount"] ++ ["modifiers"] ++ ["position"]) := by
      simp only [List.map_append]
      exact (((optional_button c).names.append (optional_count c).names).append
        (optional_modifiers c).names).append (optional_position c).names
    exact List.pairwise_map.mp (hnames.sublist hsublist)

theorem items_of_write {options : Literal.Options} {s : List Char}
    (h : options.write {} = .ok s) :
    ∃ items, options.canonical.mapM (Options.item {}) = .ok items ∧ s = commaSeparated items := by
  rw [Options.write_eq_map] at h
  obtain ⟨items, hitems, rfl⟩ := Result.map_eq_ok.mp h
  exact ⟨items, hitems, rfl⟩

/-- The arguments of a click: none, or options whose literals are known. -/
theorem alikeValue_clickOptions {c : Click} {s : List Char}
    (h : writeOptions (clickOptions c) = .ok s) :
    (s = [] ∧ optionTexts c = []) ∨ AlikeValue s s (optionTexts c) (optionTexts c) := by
  obtain ⟨items, hitems, rfl⟩ := items_of_write (Result.mapError_eq_ok.mp h)
  rw [canonical_clickOptions] at hitems
  obtain ⟨_, position, hthree, hposition, rfl⟩ := Result.mapM_append_eq_ok hitems
  obtain ⟨_, modifiers, htwo, hmodifiers, rfl⟩ := Result.mapM_append_eq_ok hthree
  obtain ⟨button, count, hbutton, hcount, rfl⟩ := Result.mapM_append_eq_ok htwo
  have h := ((((optional_button c).alike _ hbutton).append
    ((optional_count c).alike _ hcount)).append
    ((optional_modifiers c).alike _ hmodifiers)).append ((optional_position c).alike _ hposition)
  rw [List.append_nil, ← optionTexts] at h
  generalize button ++ count ++ modifiers ++ position = items at h ⊢
  generalize optionTexts c = texts at h ⊢
  obtain rfl | hne := eq_or_ne items []
  · cases h
    exact Or.inl ⟨rfl, rfl⟩
  · exact Or.inr (h.separated [','] (c := ' ') (by decide) (by decide +kernel) hne)

end Retrace.Script
