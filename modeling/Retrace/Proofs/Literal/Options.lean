import Mathlib.Data.List.Sort
import Mathlib.Data.String.Basic
import Retrace.Literal.Options

/-!
# The order of keyword arguments

Options with distinct names have one order. However they are given, their
canonical form is the list that is sorted by name, and they are written in this
order.
-/

namespace Retrace.Literal.Options

theorem pairwise_canonical (options : Options) :
    options.canonical.Pairwise fun a b => a.1 ≤ b.1 :=
  List.pairwise_mergeSort' (Order.Preimage Prod.fst (· ≤ ·)) _

/-- A list with strictly increasing names that holds the same options is the canonical form. -/
theorem canonical_eq_of_perm {options sorted : Options}
    (hperm : sorted.Perm (options.filter fun o => !o.2.isNone))
    (hsorted : sorted.Pairwise fun a b => a.1 < b.1) : options.canonical = sorted := by
  have hle : sorted.Pairwise fun a b => a.1 ≤ b.1 := hsorted.imp le_of_lt
  have hnames : (sorted.map Prod.fst).Nodup := List.pairwise_map.mpr (hsorted.imp ne_of_lt)
  have hcanonical : options.canonical.Perm sorted := (List.mergeSort_perm _ _).trans hperm.symm
  refine List.Perm.eq_of_pairwise ?_ (pairwise_canonical options) hle hcanonical
  intro a b ha hb hab hba
  exact List.inj_on_of_nodup_map hnames (hcanonical.subset ha) hb (le_antisymm hab hba)

/-- Options that are given in the order of their names are only freed of those without a value. -/
theorem canonical_of_pairwise {options : Options}
    (h : options.Pairwise fun a b => a.1 < b.1) :
    options.canonical = options.filter fun o => !o.2.isNone :=
  canonical_eq_of_perm (.refl _) (h.filter _)

/-- Written options are their items, in the order of their names, with the separator of the
layout between them. -/
theorem write_eq_intercalate [Text.View] {layout : Layout} (h : layout.hasArguments = false)
    (options : Options) : options.write layout
      = layout.separator.intercalate <$> options.canonical.mapM (item layout) := by
  rw [write]
  split
  · next hempty =>
    rw [hempty]
    rfl
  · rw [h]
    rfl

theorem write_eq_map [Text.View] (options : Options) :
    options.write {} = commaSeparated <$> options.canonical.mapM (item {}) :=
  write_eq_intercalate rfl options

end Retrace.Literal.Options
