import Plotter.Canvas
import Plotter.Command

/-!
# The journal

What a session notes down about itself. An entry is a fact (`Entry`) with a level and a text in
which named values follow a message.
-/

namespace Plotter

open Text

/-- How much detail an entry is. -/
inductive Level
  | trace
  | debug
deriving DecidableEq, Repr

/-- The word for a level. -/
def Level.name : Level → String
  | trace => "TRACE"
  | debug => "DEBUG"

/-- A fact that a session notes down. -/
inductive Entry
  /-- A canvas was made with its pen on a cell. -/
  | created (extent : Extent) (pen : Pen)
  /-- A stroke of `count` steps begins, in a mode and a direction. -/
  | stepping (count : Int) (mode : Mode) (heading : Heading)
  /-- A sheet with so many glyphs is cleared. -/
  | clearing (glyphs : Nat)
  /-- A command is obeyed. -/
  | processing (command : Command)
  /-- A word that calls no command is passed over. -/
  | ignoring (word : List Char)
  /-- So many bytes without the end of a line are dropped. -/
  | discarding (bytes : Nat)
  /-- The client has sent all it will send. -/
  | closed
deriving DecidableEq, Repr

/-- The name of a command in the journal. -/
def Command.title : Command → String
  | .steps n => "Steps(" ++ String.ofList (decimalInt n) ++ ")"
  | .left n => "Left(" ++ String.ofList (decimalInt n) ++ ")"
  | .right n => "Right(" ++ String.ofList (decimalInt n) ++ ")"
  | .hover => "Hover"
  | .draw => "Draw"
  | .erase => "Erase"
  | .coord => "Coord"
  | .render => "Render"
  | .clear => "Clear"
  | .quit => "Quit"
  | .test => "Test"

namespace Entry

/-- The level of an entry. -/
def level : Entry → Level
  | created .. => .debug
  | stepping .. => .debug
  | clearing _ => .debug
  | processing _ => .trace
  | ignoring _ => .debug
  | discarding _ => .debug
  | closed => .trace

/-- A named number behind a message. -/
def field (name : String) (n : Nat) : String := " " ++ name ++ "=" ++ String.ofList (decimal n)

/-- The mode of a pen behind a message. -/
def modeField (m : Mode) : String := " mode=\"" ++ m.name ++ "\""

/-- The message of an entry and the values behind it. -/
def message : Entry → String
  | created e p =>
    "Created canvas" ++ field "cols" e.cols ++ field "rows" e.rows ++ field "col" p.cell.col ++
      field "row" p.cell.row ++ modeField p.mode
  | stepping n m h =>
    "Stepping count=" ++ String.ofList (decimalInt n) ++ modeField m ++ " direction=" ++
      String.singleton h.arrow
  | clearing n => "Clearing canvas" ++ field "cells" n
  | processing k => "Processing command command=" ++ k.title
  | ignoring w => "Ignoring unsupported command command=" ++ String.ofList w
  | discarding n => "Discarding unterminated input" ++ field "bytes" n
  | closed => "Connection closed by client"

/-- An entry as a line of text. -/
def line (e : Entry) : String := e.level.name ++ " " ++ e.message

end Entry

/-- What a canvas notes down when it is made. -/
def Canvas.birthNotes (c : Canvas) : List Entry := [.created c.extent c.pen]

/-- What a canvas notes down about a stroke. -/
def Canvas.strokeNote (c : Canvas) (n : Int) : Entry := .stepping n c.pen.mode c.pen.heading

/-- What a canvas notes down while it obeys a command. -/
def Canvas.notes (c : Canvas) : Command → List Entry
  | .steps n => [c.strokeNote n]
  | .clear => if c.sheet.isEmpty then [] else [.clearing c.sheet.size]
  | .test => c.corners.map (·.strokeNote Canvas.sideSteps)
  | _ => []

end Plotter
