/-! Sets of characters given by ranges of code points, as the tables of character properties in this
    library write them. -/

namespace AliasBook.Text

/-- The code point `n` lies in one of the `ranges`, whose two ends both belong to them. -/
def inRanges (ranges : List (Nat × Nat)) (n : Nat) : Bool :=
  ranges.any fun r => r.1 ≤ n && n ≤ r.2

theorem inRanges_eq_true_iff {ranges : List (Nat × Nat)} {n : Nat} :
    inRanges ranges n = true ↔ ∃ r ∈ ranges, r.1 ≤ n ∧ n ≤ r.2 := by
  simp [inRanges]

end AliasBook.Text
