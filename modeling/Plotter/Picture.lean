import Plotter.Canvas
import Plotter.Text.Lines
import Plotter.Text.Numeral

/-!
# Pictures

The picture of a canvas is a frame around its cells, the highest row first, with an empty line after
it. Every line ends in a carriage return and a line feed.

```text
╔═════╗
║     ║
║  *  ║
║  *  ║
╚═════╝
```

The other report on a canvas is one line with the place of the pen, its row counted from the top as
in the picture.
-/

namespace Plotter.Canvas

open Text

/-- The character shown for a cell: its glyph, or a space if it is empty. -/
def shown (c : Canvas) (d : Cell) : Char := (c.sheet.get? d).getD ' '

/-- The upper edge of the frame. -/
def upperEdge (c : Canvas) : List Char := ['╔'] ++ List.replicate c.extent.cols '═' ++ ['╗']

/-- The lower edge of the frame. -/
def lowerEdge (c : Canvas) : List Char := ['╚'] ++ List.replicate c.extent.cols '═' ++ ['╝']

/-- The line of a picture for one row. -/
def rowLine (c : Canvas) (row : Nat) : List Char :=
  ['║'] ++ (List.range c.extent.cols).map (fun col => c.shown ⟨col, row⟩) ++ ['║']

/-- The lines of a picture for the rows, the highest one first. -/
def rowLines (c : Canvas) : List (List Char) := (List.range c.extent.rows).reverse.map c.rowLine

/-- The lines of a picture. -/
def pictureLines (c : Canvas) : List (List Char) :=
  [c.upperEdge] ++ c.rowLines ++ [c.lowerEdge, []]

/-- The picture of a canvas. -/
def picture (c : Canvas) : String := String.ofList (terminate c.pictureLines)

/-- The line with a place on the canvas. -/
def placeLine (p : Nat × Nat) : List Char :=
  ['('] ++ decimal p.1 ++ [','] ++ decimal p.2 ++ [')']

/-- The report of the place of the pen. -/
def placeReport (c : Canvas) : String := String.ofList (terminate [placeLine c.coord])

/-! ## The shape of a picture -/

@[simp] theorem length_rowLine (c : Canvas) (row : Nat) :
    (c.rowLine row).length = c.extent.cols + 2 := by
  simp [rowLine]

/-- A picture has two edges and an empty line besides its rows. -/
@[simp] theorem length_pictureLines (c : Canvas) :
    c.pictureLines.length = c.extent.rows + 3 := by
  simp [pictureLines, rowLines]

end Plotter.Canvas
