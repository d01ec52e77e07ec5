import Plotter.Cell

/-!
# Setups

A setup is what every new canvas is made from: its extent, the glyph that a drawing pen writes, and
the cell where the pen is put down.
-/

namespace Plotter

/-- What a canvas is made from. -/
structure Setup where
  /-- The size of the canvas. -/
  extent : Extent
  /-- The glyph that a drawing pen writes. -/
  glyph : Char
  /-- The cell where the pen is put down. -/
  start : Cell
deriving DecidableEq, Repr

namespace Setup

/-- The glyph of a pen for which no other one is given. -/
def usualGlyph : Char := '*'

/-- The cell near the middle of an extent, just below it where the number of rows is even. -/
def middle (e : Extent) : Cell := ⟨e.cols / 2, e.rows / 2 - 1⟩

/-- The setup with the pen near the middle of an extent. -/
def centred (e : Extent) : Setup := ⟨e, usualGlyph, middle e⟩

/-- The extent of a canvas for which no other one is given. -/
def usualExtent : Extent := ⟨30, 30⟩

/-- The setup for which nothing is given. -/
def usual : Setup := centred usualExtent

/-- The pen is put down within the extent. -/
def Valid (s : Setup) : Prop := s.extent.Holds s.start

instance (s : Setup) : Decidable s.Valid := inferInstanceAs (Decidable (s.extent.Holds s.start))

/-- An extent of at least one cell holds its middle. -/
theorem valid_centred {e : Extent} (hc : 0 < e.cols) (hr : 0 < e.rows) : (centred e).Valid := by
  simp only [Valid, Extent.Holds, centred, middle]
  omega

end Setup

end Plotter
