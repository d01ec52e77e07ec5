import Plotter.Compass

/-!
# Cells and extents

A cell is a column and a row, both counted from nought, with row nought at the bottom. An extent is
the size of a canvas. This file says which cells an extent holds and which cell lies next to another
one (`Extent.ahead?`).

Coordinates are words of sixty-four bits: a sum that leaves the range of a word is refused before it
is compared with the extent (`shifted?`). No extent reaches beyond that range, so the refusal is
never seen apart from the comparison; it keeps each coordinate a word.
-/

namespace Plotter

/-- A place on a canvas. -/
structure Cell where
  /-- Columns from the left edge. -/
  col : Nat
  /-- Rows from the bottom edge. -/
  row : Nat
deriving DecidableEq, Repr

/-- The size of a canvas. -/
structure Extent where
  /-- The number of columns. -/
  cols : Nat
  /-- The number of rows. -/
  rows : Nat
deriving DecidableEq, Repr

/-- The number of values of a coordinate. -/
def wordSize : Nat := 0x10000000000000000

/-- The coordinate at distance `d` from `x`, unless the sum is no word. -/
def shifted? (x : Nat) (d : Int) : Option Nat :=
  if 0 ≤ x + d ∧ x + d < wordSize then some (x + d).toNat else none

/-- The coordinate at distance `d` is the integer sum, where that is a word. -/
theorem shifted?_eq_some_iff {x y : Nat} {d : Int} :
    shifted? x d = some y ↔ (y : Int) = x + d ∧ y < wordSize := by
  unfold shifted?
  split <;> simp <;> omega

namespace Cell

/-- The cell at the given offset, unless one of its coordinates is no word. -/
def neighbour? (c : Cell) (o : Offset) : Option Cell :=
  match shifted? c.col o.col, shifted? c.row o.row with
  | some col, some row => some ⟨col, row⟩
  | _, _ => none

/-- The cell at an offset has the integer sums as its coordinates, where both are words. -/
theorem neighbour?_eq_some_iff {c d : Cell} {o : Offset} :
    c.neighbour? o = some d ↔
      ((d.col : Int) = c.col + o.col ∧ d.col < wordSize) ∧
        ((d.row : Int) = c.row + o.row ∧ d.row < wordSize) := by
  rw [← shifted?_eq_some_iff, ← shifted?_eq_some_iff]
  unfold neighbour?
  cases d
  cases shifted? c.col o.col <;> cases shifted? c.row o.row <;> simp

end Cell

namespace Extent

/-- A cell lies within an extent. -/
def Holds (e : Extent) (c : Cell) : Prop := c.col < e.cols ∧ c.row < e.rows

instance (e : Extent) (c : Cell) : Decidable (e.Holds c) :=
  inferInstanceAs (Decidable (c.col < e.cols ∧ c.row < e.rows))

/-- The cell next to `c` in direction `h`, unless it lies outside the extent. -/
def ahead? (e : Extent) (c : Cell) (h : Heading) : Option Cell :=
  (c.neighbour? h.offset).filter fun d => decide (e.Holds d)

/-- The cell ahead is a neighbour that the extent holds. -/
theorem ahead?_eq_some_iff {e : Extent} {c d : Cell} {h : Heading} :
    e.ahead? c h = some d ↔ c.neighbour? h.offset = some d ∧ e.Holds d := by
  simp [ahead?, Option.filter_eq_some_iff]

/-- The cell ahead lies within the extent. -/
theorem holds_of_ahead? {e : Extent} {c d : Cell} {h : Heading} (hd : e.ahead? c h = some d) :
    e.Holds d :=
  (ahead?_eq_some_iff.1 hd).2

end Extent

end Plotter
