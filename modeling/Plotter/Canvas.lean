import Plotter.Pen
import Plotter.Setup
import Plotter.Sheet

/-!
# The canvas

A canvas is a sheet with a pen on it. A step has two parts, always in this order: the pen leaves its
mark on the cell it stands on (`Canvas.mark`), and then it moves to the cell ahead if the extent
holds that one (`Canvas.advance?`). So a pen that stands against an edge still marks its cell.

A stroke (`Canvas.walk`) is a number of steps one after the other. Once a step is blocked, each
further one would do the same to the same cell, so a stroke ends there; the number of steps may
exceed any extent. The loop can take notes of the steps that it makes (`Canvas.trace`), so that what
is told of them is told of the loop itself.

The drawing that a client can ask for as an example (`Canvas.square`) is four strokes of five steps
with a quarter turn after each.
-/

namespace Plotter

/-- The sheet after a pen in mode `m` has marked a cell. -/
def Sheet.mark (s : Sheet) (m : Mode) (c : Cell) (glyph : Char) : Sheet :=
  match m with
  | .draw => s.write c glyph
  | .hover => s
  | .eraser => s.wipe c

/-- A sheet with a pen on it. -/
structure Canvas where
  /-- What the canvas was made from. -/
  setup : Setup
  /-- The glyphs drawn so far. -/
  sheet : Sheet
  /-- The pen. -/
  pen : Pen

namespace Canvas

/-- The empty canvas of a setup, its pen put down at the start. -/
def blank (s : Setup) : Canvas := ⟨s, Sheet.empty, Pen.placed s.start⟩

/-- The size of a canvas. -/
abbrev extent (c : Canvas) : Extent := c.setup.extent

/-- The pen stands within the extent. -/
def Inside (c : Canvas) : Prop := c.extent.Holds c.pen.cell

instance (c : Canvas) : Decidable c.Inside :=
  inferInstanceAs (Decidable (c.extent.Holds c.pen.cell))

/-! ## The pen at rest -/

/-- The canvas with the pen turned clockwise by `n` eighths. -/
def turnRight (c : Canvas) (n : Int) : Canvas := { c with pen := c.pen.turnRight n }

/-- The canvas with the pen turned counter-clockwise by `n` eighths. -/
def turnLeft (c : Canvas) (n : Int) : Canvas := { c with pen := c.pen.turnLeft n }

/-- The canvas with its pen in another mode. -/
def setMode (c : Canvas) (m : Mode) : Canvas := { c with pen := { c.pen with mode := m } }

/-- The canvas with every glyph removed and the pen as it was. -/
def clear (c : Canvas) : Canvas := { c with sheet := Sheet.empty }

/-- The cell of the pen as clients see it: the column from the left and the row from the top. -/
def coord (c : Canvas) : Nat × Nat := (c.pen.cell.col, c.extent.rows - (c.pen.cell.row + 1))

/-! ## Steps -/

/-- The canvas after the pen has marked the cell it stands on. -/
def mark (c : Canvas) : Canvas :=
  { c with sheet := c.sheet.mark c.pen.mode c.pen.cell c.setup.glyph }

/-- The canvas with the pen on the cell ahead, unless that lies outside. -/
def advance? (c : Canvas) : Option Canvas :=
  (c.pen.ahead? c.extent).map fun d => { c with pen := { c.pen with cell := d } }

/-- One step, and whether the pen moved. -/
def step (c : Canvas) : Canvas × Bool :=
  match c.mark.advance? with
  | some d => (d, true)
  | none => (c.mark, false)

/-- As many steps as are given, up to the first that is blocked. Each step that is made is added to
the notes, by the canvas on which it is made. -/
def trace {α : Type} (note : α → Canvas → α) : Nat → α → Canvas → α × Canvas
  | 0, notes, c => (notes, c)
  | n + 1, notes, c =>
    match c.step with
    | (d, true) => trace note n (note notes c) d
    | (d, false) => (note notes c, d)

/-- The canvas after as many steps, of which no notes are taken. -/
def walk (n : Nat) (c : Canvas) : Canvas := (trace (fun _ _ => ()) n () c).2

/-- A stroke of `n` steps, of none if `n` is negative. -/
def steps (c : Canvas) (n : Int) : Canvas := walk n.toNat c

/-! ## The example -/

/-- The number of steps along one side of the example. -/
def sideSteps : Int := 5

/-- The eighths of a turn at a corner of the example. -/
def cornerTurn : Int := 2

/-- One side of the example and the turn after it. -/
def side (c : Canvas) : Canvas := (c.steps sideSteps).turnRight cornerTurn

/-- The canvases from which the four sides of the example start. -/
def corners (c : Canvas) : List Canvas := [c, c.side, c.side.side, c.side.side.side]

/-- The canvas after the example. -/
def square (c : Canvas) : Canvas := c.side.side.side.side

end Canvas

end Plotter
