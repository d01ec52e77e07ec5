import Plotter.Cell

/-!
# The pen

A pen stands on a cell, faces a heading and is in one of three modes, which say what a step leaves
behind on the cell it starts from.
-/

namespace Plotter

/-- What a step does to the cell it starts from. -/
inductive Mode
  /-- The glyph is written there. -/
  | draw
  /-- The cell is left alone. -/
  | hover
  /-- The cell is emptied. -/
  | eraser
deriving DecidableEq, Repr

/-- The word for a mode. -/
def Mode.name : Mode → String
  | .draw => "draw"
  | .hover => "hover"
  | .eraser => "eraser"

/-- The pen: where it stands, which way it faces and what its steps leave behind. -/
structure Pen where
  /-- The direction it faces. -/
  heading : Heading
  /-- What its steps leave behind. -/
  mode : Mode
  /-- The cell it stands on. -/
  cell : Cell
deriving DecidableEq, Repr

namespace Pen

/-- A pen put down on a cell, facing north and ready to draw. -/
def placed (c : Cell) : Pen := ⟨Heading.north, .draw, c⟩

/-- The pen after `n` eighths of a turn clockwise. -/
def turnRight (p : Pen) (n : Int) : Pen := { p with heading := p.heading.turnRight n }

/-- The pen after `n` eighths of a turn counter-clockwise. -/
def turnLeft (p : Pen) (n : Int) : Pen := { p with heading := p.heading.turnLeft n }

/-- The cell one step ahead, unless it lies outside the extent. -/
def ahead? (p : Pen) (e : Extent) : Option Cell := e.ahead? p.cell p.heading

end Pen

end Plotter
