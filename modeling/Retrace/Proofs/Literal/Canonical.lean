import Retrace.Proofs.Literal.Options
import Retrace.Proofs.Result

/-!
# Options have one written form

Of options with distinct names those that hold something are listed by name, and
there is one such list. What is written is an argument for each option of this
list, so neither the order in which options are given nor those that hold
nothing make a difference, and the fault is that of the first option by name
that cannot be written.
-/

namespace Retrace.Literal.Options

/-- An argument: a keyword and the text of a value. -/
def Layout.argument (layout : Layout) (keyword value : List Char) : List Char :=
  if layout.asDictionary then '\x22' :: keyword ++ "\x22: ".toList ++ value
  else keyword ++ '=' :: value

/-- Arguments behind each other, and behind those that stand before them. -/
def Layout.join (layout : Layout) : List (List Char) → List Char
  | [] => []
  | arguments =>
    (if layout.hasArguments then [',', ' '] else []) ++ layout.separator.intercalate arguments

/-- The keyword under which an option is written. -/
def keyword (option : String × Datum) : List Char := Naming.snakeCase option.1.toList

/-- The text is that of an option: its keyword with its value behind. -/
def IsArgument [Text.View] (layout : Layout) (option : String × Datum) (text : List Char) : Prop :=
  ∃ value, ofDatum option.2 = .ok value ∧ text = layout.argument (keyword option) value

/-- The options that hold something, by name. -/
structure IsListing (options sorted : Options) : Prop where
  increasing : sorted.Pairwise fun a b => a.1 < b.1
  mem_iff : ∀ o, o ∈ sorted ↔ o ∈ options ∧ o.2.isNone = false

/-- The fault of the first option by name that holds something and cannot be written. -/
def IsFirstFault [Text.View] (options : Options) (fault : Fault) : Prop :=
  ∃ o ∈ options, o.2.isNone = false ∧ ofDatum o.2 = .error fault
    ∧ ∀ p ∈ options, p.2.isNone = false → p.1 < o.1 → ∃ value, ofDatum p.2 = .ok value

section

variable {options others sorted : Options} {layout : Layout}

/-! ## One listing -/

theorem canonical_perm (options : Options) :
    options.canonical.Perm (options.filter fun o => !o.2.isNone) :=
  List.mergeSort_perm _ _

/-- What tells all options apart tells those in the canonical form apart. -/
theorem nodup_map_canonical {α : Type} {f : String × Datum → α} (h : (options.map f).Nodup) :
    (options.canonical.map f).Nodup :=
  ((canonical_perm options).map f).nodup_iff.mpr (h.sublist (List.filter_sublist.map f))

theorem isListing_canonical (hnames : (options.map Prod.fst).Nodup) :
    IsListing options options.canonical := by
  constructor
  · have hdistinct := List.pairwise_map.mp (nodup_map_canonical hnames)
    exact ((pairwise_canonical options).and hdistinct).imp fun h => lt_of_le_of_ne h.1 h.2
  · intro o
    simp [(canonical_perm options).mem_iff]

theorem IsListing.nodup (h : IsListing options sorted) : sorted.Nodup :=
  h.increasing.imp fun hlt heq => absurd (congrArg Prod.fst heq) (ne_of_lt hlt)

/-- There is one listing: two increasing lists of the same options are the same. -/
theorem IsListing.canonical_eq (h : IsListing options sorted)
    (hnames : (options.map Prod.fst).Nodup) : options.canonical = sorted := by
  apply canonical_eq_of_perm _ h.increasing
  rw [List.perm_ext_iff_of_nodup h.nodup (hnames.of_map.filter _)]
  intro o
  simp [h.mem_iff]

theorem IsListing.congr (h : IsListing options sorted)
    (hsame : ∀ o, o.2.isNone = false → (o ∈ options ↔ o ∈ others)) : IsListing others sorted where
  increasing := h.increasing
  mem_iff o := by
    rw [h.mem_iff, and_congr_left_iff]
    exact hsame o

/-- An option stands before another one in a listing if its name does. -/
theorem IsListing.mem_before_iff {before after : Options} {o p : String × Datum}
    (h : IsListing options (before ++ o :: after)) :
    p ∈ before ↔ (p ∈ options ∧ p.2.isNone = false) ∧ p.1 < o.1 := by
  obtain ⟨-, hafter, hacross⟩ := List.pairwise_append.mp h.increasing
  rw [← h.mem_iff]
  constructor
  · intro hp
    exact ⟨List.mem_append_left _ hp, hacross p hp o List.mem_cons_self⟩
  · rintro ⟨hp, hlt⟩
    obtain hp | hp := List.mem_append.mp hp
    · exact hp
    · obtain rfl | hp := List.mem_cons.mp hp
      · exact absurd hlt (lt_irrefl _)
      · exact absurd hlt (lt_asymm ((List.pairwise_cons.mp hafter).1 p hp))

/-! ## What is written -/

theorem item_eq_ok_iff [Text.View] {o : String × Datum} {text : List Char} :
    item layout o = .ok text ↔ IsArgument layout o text := by
  rw [item, Result.bind_eq_ok, IsArgument]
  constructor
  · rintro ⟨value, hvalue, htext⟩
    cases htext
    exact ⟨value, hvalue, rfl⟩
  · rintro ⟨value, hvalue, rfl⟩
    exact ⟨value, hvalue, rfl⟩

theorem item_eq_error_iff [Text.View] {o : String × Datum} {fault : Fault} :
    item layout o = .error fault ↔ ofDatum o.2 = .error fault := by
  rw [item]
  cases ofDatum o.2 with
  | ok value => exact ⟨nofun, nofun⟩
  | error other => exact Iff.rfl

theorem exists_item_iff [Text.View] {o : String × Datum} :
    (∃ text, item layout o = .ok text) ↔ ∃ value, ofDatum o.2 = .ok value := by
  rw [item]
  exact Result.exists_bind_eq_ok fun value => ⟨_, rfl⟩

theorem write_eq_join [Text.View] (layout : Layout) (options : Options) :
    options.write layout = layout.join <$> options.canonical.mapM (item layout) := by
  rw [write]
  cases options.canonical with
  | nil => rfl
  | cons o sorted =>
    dsimp only
    rw [List.mapM_cons]
    cases item layout o with
    | error fault => rfl
    | ok text => cases sorted.mapM (item layout) <;> rfl

theorem IsListing.write_eq_ok_iff [Text.View] (h : IsListing options sorted)
    (hnames : (options.map Prod.fst).Nodup) {text : List Char} :
    options.write layout = .ok text ↔ ∃ arguments,
      List.Forall₂ (IsArgument layout) sorted arguments ∧ text = layout.join arguments := by
  rw [write_eq_join, h.canonical_eq hnames, Result.map_eq_ok]
  simp only [Result.mapM_eq_ok, item_eq_ok_iff, @eq_comm _ text]

/-- The arguments of some options have the keywords of these options. -/
theorem exists_arguments [Text.View] {texts : List (List Char)}
    (h : List.Forall₂ (IsArgument layout) sorted texts) :
    ∃ arguments : List (List Char × List Char),
      texts = arguments.map (fun a => layout.argument a.1 a.2)
        ∧ arguments.map Prod.fst = sorted.map keyword := by
  induction h with
  | nil => exact ⟨[], rfl, rfl⟩
  | @cons o _ _ _ htext _ ih =>
    obtain ⟨value, -, rfl⟩ := htext
    obtain ⟨arguments, rfl, hkeywords⟩ := ih
    exact ⟨(keyword o, value) :: arguments, rfl, by rw [List.map_cons, List.map_cons, hkeywords]⟩

theorem IsListing.write_eq_error_iff [Text.View] (h : IsListing options sorted)
    (hnames : (options.map Prod.fst).Nodup) {fault : Fault} :
    options.write layout = .error fault ↔ IsFirstFault options fault := by
  rw [write_eq_join, h.canonical_eq hnames, Result.map_eq_error, Result.mapM_eq_error]
  simp only [item_eq_error_iff, exists_item_iff]
  constructor
  · rintro ⟨before, o, after, rfl, hbefore, ho⟩
    obtain ⟨hmem, hgiven⟩ := (h.mem_iff o).mp (by simp)
    refine ⟨o, hmem, hgiven, ho, ?_⟩
    intro p hp hgiven' hlt
    exact hbefore p (h.mem_before_iff.mpr ⟨⟨hp, hgiven'⟩, hlt⟩)
  · rintro ⟨o, hmem, hgiven, ho, hbefore⟩
    obtain ⟨before, after, rfl⟩ := List.append_of_mem ((h.mem_iff o).mpr ⟨hmem, hgiven⟩)
    refine ⟨before, o, after, rfl, ?_, ho⟩
    intro p hp
    obtain ⟨⟨hp, hgiven'⟩, hlt⟩ := h.mem_before_iff.mp hp
    exact hbefore p hp hgiven' hlt

end

/-- Two dictionaries that agree in the options that hold something are written alike, or fail
alike. What is written is an argument for each of these options, by their names and not by their
keywords, and nothing if there is none; the fault is that of the first one by name. -/
theorem write_canonical [Text.View] {options others : Options}
    (hnames : (options.map Prod.fst).Nodup) (hothers : (others.map Prod.fst).Nodup)
    (hsame : ∀ o, o.2.isNone = false → (o ∈ options ↔ o ∈ others)) (layout : Layout) :
    options.write layout = others.write layout
      ∧ (∃ sorted, IsListing options sorted ∧ ∀ text, options.write layout = .ok text ↔
        ∃ arguments, List.Forall₂ (IsArgument layout) sorted arguments
          ∧ text = layout.join arguments)
      ∧ (∀ fault, options.write layout = .error fault ↔ IsFirstFault options fault)
      ∧ ((∀ o ∈ options, o.2.isNone = true) → options.write layout = .ok []) := by
  have hlisting := isListing_canonical hnames
  have hcanonical := (hlisting.congr hsame).canonical_eq hothers
  refine ⟨?_, ⟨_, hlisting, fun text => hlisting.write_eq_ok_iff hnames⟩,
    fun fault => hlisting.write_eq_error_iff hnames, ?_⟩
  · rw [write_eq_join, write_eq_join, hcanonical]
  · intro hnothing
    have hempty : options.canonical = [] := by
      rw [List.eq_nil_iff_forall_not_mem]
      intro o ho
      obtain ⟨hmem, hgiven⟩ := (hlisting.mem_iff o).mp ho
      rw [hnothing o hmem] at hgiven
      cases hgiven
    rw [write, hempty]

/-- A capital comes before all small letters, so the keywords are not in their own order. -/
theorem write_canonical_capital :
    (∀ o : String × Datum, o.2.isNone = false →
        (o ∈ [("a", .bool true), ("c", .none), ("B", .text "x")]
          ↔ o ∈ [("B", .text "x"), ("a", .bool true)]))
      ∧ Options.write { hasArguments := true } [("a", .bool true), ("c", .none), ("B", .text "x")]
        = Options.write { hasArguments := true } [("B", .text "x"), ("a", .bool true)]
      ∧ Options.write { hasArguments := true } [("B", .text "x"), ("a", .bool true)]
        = .ok ", b=\x22x\x22, a=True".toList := by
  have hsame : ∀ o : String × Datum, o.2.isNone = false →
      (o ∈ [("a", .bool true), ("c", .none), ("B", .text "x")]
        ↔ o ∈ [("B", .text "x"), ("a", .bool true)]) := by
    intro o hgiven
    have hne : o ≠ ("c", .none) := by
      rintro rfl
      cases hgiven
    simp [hne, or_comm]
  refine ⟨hsame, (write_canonical (by decide) (by decide) hsame _).1, ?_⟩
  rw [write_eq_join, canonical_of_pairwise (by decide)]
  rfl

end Retrace.Literal.Options
