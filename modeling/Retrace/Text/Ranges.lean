/-!
# Sets of characters given by ranges of code points

A table is a list of closed ranges. Membership is a plain search, so a table
denotes the union of its ranges whatever their order.
-/

namespace Retrace.Text

def inRanges (table : List (Nat × Nat)) (c : Char) : Bool :=
  table.any fun r => r.1 ≤ c.toNat && c.toNat ≤ r.2

theorem inRanges_eq_true_iff {table : List (Nat × Nat)} {c : Char} :
    inRanges table c = true ↔ ∃ r ∈ table, r.1 ≤ c.toNat ∧ c.toNat ≤ r.2 := by
  simp [inRanges]

@[simp] theorem inRanges_append (s t : List (Nat × Nat)) (c : Char) :
    inRanges (s ++ t) c = (inRanges s c || inRanges t c) := by
  simp [inRanges]

end Retrace.Text
