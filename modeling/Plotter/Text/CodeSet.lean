/-!
# Sets of code points

The properties of characters that this library asks about are given as lists of ranges of code
points, each range with both its ends.
-/

namespace Plotter.Text

/-- A set of code points, as a list of ranges with both ends included. -/
abbrev CodeSet := List (Nat × Nat)

/-- A character belongs to a set if one of the ranges holds its code point. -/
def CodeSet.contains (s : CodeSet) (c : Char) : Bool :=
  s.any fun r => decide (r.1 ≤ c.toNat ∧ c.toNat ≤ r.2)

/-- Membership is membership in one of the ranges. -/
theorem CodeSet.contains_iff {s : CodeSet} {c : Char} :
    s.contains c = true ↔ ∃ r ∈ s, r.1 ≤ c.toNat ∧ c.toNat ≤ r.2 := by
  simp [CodeSet.contains, List.any_eq_true]

end Plotter.Text
