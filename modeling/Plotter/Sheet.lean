import Std.Data.ExtTreeMap
import Plotter.Cell

/-!
# The sheet

A sheet holds the glyphs that have been drawn, each at its cell. A cell without a glyph is empty; a
cell that holds a blank is not. A sheet knows no extent: it holds whatever cells it is given.

The cells are kept in order, row by row from the bottom and within a row from the left. Two sheets
that agree at every cell are equal (`Sheet.ext`).
-/

namespace Plotter

/-- The order of cells by row, and within a row by column. -/
def Cell.rowMajor : Cell → Cell → Ordering := compareLex (compareOn Cell.row) (compareOn Cell.col)

instance : Std.TransCmp Cell.rowMajor :=
  inferInstanceAs (Std.TransCmp (compareLex (compareOn Cell.row) (compareOn Cell.col)))

instance : Std.LawfulEqCmp Cell.rowMajor where
  compare_self := by
    intro a
    simp [Cell.rowMajor, compareLex, compareOn]
  eq_of_compare := by
    intro a b h
    simp [Cell.rowMajor, compareLex, compareOn, Ordering.then_eq_eq] at h
    cases a
    cases b
    simp_all

/-- The glyphs that have been drawn, each at its cell. -/
structure Sheet where
  /-- The glyph of each cell that has one. -/
  glyphs : Std.ExtTreeMap Cell Char Cell.rowMajor

namespace Sheet

/-- The sheet on which nothing has been drawn. -/
def empty : Sheet := ⟨∅⟩

/-- The glyph at a cell, if there is one. -/
def get? (s : Sheet) (c : Cell) : Option Char := s.glyphs[c]?

/-- The sheet with a glyph written at a cell, over whatever was there. -/
def write (s : Sheet) (c : Cell) (glyph : Char) : Sheet := ⟨s.glyphs.insert c glyph⟩

/-- The sheet with a cell emptied. -/
def wipe (s : Sheet) (c : Cell) : Sheet := ⟨s.glyphs.erase c⟩

/-- The number of cells that hold a glyph. -/
def size (s : Sheet) : Nat := s.glyphs.size

/-- No cell holds a glyph. -/
def isEmpty (s : Sheet) : Bool := s.glyphs.isEmpty

/-! ## What each operation does to a cell -/

/-- Sheets that agree at every cell are equal. -/
theorem ext {s t : Sheet} (h : ∀ c, s.get? c = t.get? c) : s = t := by
  cases s
  cases t
  congr 1
  exact Std.ExtTreeMap.ext_getElem? h

@[simp] theorem get?_empty (c : Cell) : empty.get? c = none := by
  simp [empty, get?]

/-- Writing changes the one cell written. -/
@[simp] theorem get?_write (s : Sheet) (c d : Cell) (glyph : Char) :
    (s.write c glyph).get? d = if c = d then some glyph else s.get? d := by
  simp [write, get?, Std.ExtTreeMap.getElem?_insert]

/-- Wiping empties the one cell wiped. -/
@[simp] theorem get?_wipe (s : Sheet) (c d : Cell) :
    (s.wipe c).get? d = if c = d then none else s.get? d := by
  simp [wipe, get?, Std.ExtTreeMap.getElem?_erase]

end Sheet

end Plotter
