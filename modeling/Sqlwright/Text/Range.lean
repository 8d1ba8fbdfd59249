/-!
Sets of characters given as ranges of code points.
-/

namespace Sqlwright.Text

abbrev CodeRange := Nat × Nat

def inRanges (c : Char) (ranges : List CodeRange) : Bool :=
  ranges.any fun range => range.1 ≤ c.toNat && c.toNat ≤ range.2

theorem inRanges_iff {c : Char} {ranges : List CodeRange} :
    inRanges c ranges = true ↔ ∃ range ∈ ranges, range.1 ≤ c.toNat ∧ c.toNat ≤ range.2 := by
  simp [inRanges, List.any_eq_true]

end Sqlwright.Text
