/-!
# Sets of characters given by ranges

A property of characters is tabulated as a list of closed ranges of code points.
`CodeRanges.contains` reads such a table.
-/

namespace ModMerge.Text

/-- Closed ranges of code points, in ascending order. -/
abbrev CodeRanges := List (Nat × Nat)

/-- Whether a character lies in one of the ranges. -/
def CodeRanges.contains (ranges : CodeRanges) (character : Char) : Bool :=
  ranges.any fun (first, last) => first ≤ character.toNat && character.toNat ≤ last

/-- Membership in a table is membership in one of its ranges. -/
theorem CodeRanges.contains_iff (ranges : CodeRanges) (character : Char) :
    ranges.contains character = true ↔
      ∃ range ∈ ranges, range.1 ≤ character.toNat ∧ character.toNat ≤ range.2 := by
  simp [CodeRanges.contains]

end ModMerge.Text
