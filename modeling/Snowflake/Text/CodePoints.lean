/-!
# `Snowflake.Text.CodePoints`: sets of code points

A set of code points is written as a list of closed ranges. The tables of
character properties in this folder are such lists.
-/

set_option autoImplicit false

namespace Snowflake.Text

/-- Some range of the list holds the number. -/
def inRanges (ranges : List (Nat × Nat)) (n : Nat) : Bool :=
  ranges.any fun r => decide (r.1 ≤ n) && decide (n ≤ r.2)

/-- Membership is membership in one of the ranges. -/
theorem inRanges_iff {ranges : List (Nat × Nat)} {n : Nat} :
    inRanges ranges n = true ↔ ∃ r ∈ ranges, r.1 ≤ n ∧ n ≤ r.2 := by
  simp [inRanges]

end Snowflake.Text
