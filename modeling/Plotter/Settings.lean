import Plotter.Setup
import Plotter.Text.Numeral
import Plotter.Text.Quoted

/-!
# Settings

The settings of a service come from two layers: what was chosen for this run (`Choices`), by an
option or a variable of the environment, and what a file says (`Profile`), which has a usual value
for all that it leaves open. A choice goes before the file (`Settings.merge`).

Three things can be wrong with the layers together, and they are looked at in this order: the canvas
has no cell, the glyph is not one character, the pen is put down outside the canvas
(`Settings.Problem`). The size of the canvas may be chosen, so the place where the pen is put down
is worked out only then, if the file does not say it.
-/

namespace Plotter

open Text

/-- What was chosen for one run; nothing where the choice was left open. -/
structure Choices where
  /-- The path of the file. -/
  config : Option String := none
  /-- The address to listen on. -/
  host : Option String := none
  /-- The port to listen on. -/
  port : Option Nat := none
  /-- The largest number of sessions at a time. -/
  maxConnections : Option Nat := none
  /-- The number of columns. -/
  cols : Option Nat := none
  /-- The number of rows. -/
  rows : Option Nat := none
  /-- How much detail is logged. -/
  logLevel : Option String := none
deriving DecidableEq, Repr

/-- The usual address to listen on. -/
def Profile.usualHost : String := "0.0.0.0"

/-- The usual port to listen on. -/
def Profile.usualPort : Nat := 8124

/-- The usual number of sessions at a time. -/
def Profile.usualMaxConnections : Nat := 1024

/-- The usual number of columns. -/
def Profile.usualCols : Nat := Setup.usualExtent.cols

/-- The usual number of rows. -/
def Profile.usualRows : Nat := Setup.usualExtent.rows

/-- The usual glyph of the pen. -/
def Profile.usualGlyph : String := String.singleton Setup.usualGlyph

/-- The usual amount of detail that is logged. -/
def Profile.usualLogLevel : String := "info"

/-- What a file says, with the usual values for what it leaves open. -/
structure Profile where
  /-- The address to listen on. -/
  host : String := Profile.usualHost
  /-- The port to listen on. -/
  port : Nat := Profile.usualPort
  /-- The largest number of sessions at a time. -/
  maxConnections : Nat := Profile.usualMaxConnections
  /-- The number of columns. -/
  cols : Nat := Profile.usualCols
  /-- The number of rows. -/
  rows : Nat := Profile.usualRows
  /-- The glyph of the pen. -/
  glyph : String := Profile.usualGlyph
  /-- The column where the pen is put down. -/
  startCol : Option Nat := none
  /-- The row where the pen is put down. -/
  startRow : Option Nat := none
  /-- How much detail is logged. -/
  logLevel : String := Profile.usualLogLevel
deriving DecidableEq, Repr

/-- The profile of a file that leaves everything open, and of no file. -/
def Profile.usual : Profile := {}

/-- The settings of a service. -/
structure Settings where
  /-- The address to listen on. -/
  host : String
  /-- The port to listen on. -/
  port : Nat
  /-- The largest number of sessions at a time. -/
  maxConnections : Nat
  /-- What every canvas is made from. -/
  setup : Setup
  /-- How much detail is logged. -/
  logLevel : String
deriving DecidableEq, Repr

namespace Settings

/-- What is wrong with settings. -/
inductive Problem
  /-- The canvas has no cell. -/
  | emptyCanvas (extent : Extent)
  /-- The glyph is not one character. -/
  | badGlyph (glyph : String)
  /-- The pen is put down outside the canvas. -/
  | startOutside (start : Cell) (extent : Extent)
deriving DecidableEq, Repr

/-- An extent in words. -/
def extentText (e : Extent) : String :=
  String.ofList (decimal e.cols ++ ['x'] ++ decimal e.rows)

/-- A cell in words. -/
def cellText (c : Cell) : String :=
  String.ofList (['('] ++ decimal c.col ++ [','] ++ decimal c.row ++ [')'])

/-- The wording of a problem. -/
def Problem.message : Problem → String
  | emptyCanvas e =>
    "Canvas must have at least one column and one row (got " ++ extentText e ++ ")"
  | badGlyph g => "Brush glyph must be exactly one character (got " ++ quoted g ++ ")"
  | startOutside c e =>
    "Brush start " ++ cellText c ++ " lies outside the " ++ extentText e ++ " canvas"

/-- The one character of a text, if it is one. -/
def single? (s : String) : Option Char :=
  match s.toList with
  | [c] => some c
  | _ => none

/-- The size of the canvas. -/
def extentOf (c : Choices) (p : Profile) : Extent := ⟨c.cols.getD p.cols, c.rows.getD p.rows⟩

/-- Where the pen is put down on a canvas of a size. -/
def startOf (e : Extent) (p : Profile) : Cell :=
  let m := Setup.middle e
  ⟨p.startCol.getD m.col, p.startRow.getD m.row⟩

/-- The setup of every canvas, or what is wrong with it. -/
def setupOf (c : Choices) (p : Profile) : Except Problem Setup :=
  let e := extentOf c p
  let start := startOf e p
  if e.cols = 0 ∨ e.rows = 0 then .error (.emptyCanvas e)
  else
    match single? p.glyph with
    | none => .error (.badGlyph p.glyph)
    | some g => if e.Holds start then .ok ⟨e, g, start⟩ else .error (.startOutside start e)

/-- The settings that the two layers give, a choice going before the file. At least one session is
allowed at a time. -/
def merge (c : Choices) (p : Profile) : Except Problem Settings :=
  (setupOf c p).map fun setup =>
    { host := c.host.getD p.host
      port := c.port.getD p.port
      maxConnections := max 1 (c.maxConnections.getD p.maxConnections)
      setup := setup
      logLevel := c.logLevel.getD p.logLevel }

/-- The address and the port to listen on. -/
def address (s : Settings) : String := s.host ++ ":" ++ String.ofList (decimal s.port)

end Settings

end Plotter
