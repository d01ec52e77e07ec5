import Plotter.Journal
import Plotter.Picture
import Plotter.Text.Utf8

/-!
# Sessions

A session is a canvas that obeys one client. What a command does to the canvas (`Canvas.obey`), what
it answers (`Canvas.answer`) and what it notes down (`Canvas.notes`) are three functions of the
canvas before it; a session runs them over the lines of what the client sends.

A payload is decoded as a whole, ill-formed bytes replaced, and then broken into lines, all of which
are read in order. After the line that ends the session nothing more is done.
-/

namespace Plotter

open Text

/-- The canvas after a command. -/
def Canvas.obey (c : Canvas) : Command → Canvas
  | .steps n => c.steps n
  | .left n => c.turnLeft n
  | .right n => c.turnRight n
  | .hover => c.setMode .hover
  | .draw => c.setMode .draw
  | .erase => c.setMode .eraser
  | .coord => c
  | .render => c
  | .clear => c.clear
  | .quit => c
  | .test => c.square

/-- The answer of a canvas to a command. -/
def Canvas.answer (c : Canvas) : Command → String
  | .coord => c.placeReport
  | .render => c.picture
  | .test => c.square.picture
  | _ => ""

/-- Whether a session goes on. -/
inductive Verdict
  /-- More payloads are awaited. -/
  | goOn
  /-- The client has ended the session. -/
  | quit
deriving DecidableEq, Repr

/-- How far the lines of a payload have been run. -/
structure Progress where
  /-- The canvas after the lines so far. -/
  canvas : Canvas
  /-- The answers so far. -/
  output : String
  /-- Whether the session goes on. -/
  verdict : Verdict
  /-- What has been noted down so far. -/
  journal : Array Entry

namespace Progress

/-- Nothing of a payload has been run. -/
def start (c : Canvas) : Progress := ⟨c, "", .goOn, #[]⟩

/-- The progress after a word that calls no command. -/
def ignore (p : Progress) (w : List Char) : Progress :=
  match w with
  | [] => p
  | _ :: _ => { p with journal := p.journal.push (.ignoring w) }

/-- The progress after a command. -/
def obey (p : Progress) (k : Command) : Progress :=
  match p with
  | ⟨canvas, output, _, journal⟩ =>
    { canvas := canvas.obey k
      output := output ++ canvas.answer k
      verdict := if k = .quit then .quit else .goOn
      journal := (journal.push (.processing k)) ++ canvas.notes k }

/-- The progress after one more line. -/
def next (p : Progress) (line : List Char) : Progress :=
  match p.verdict with
  | .quit => p
  | .goOn =>
    match Reading.ofLine line with
    | .command k => p.obey k
    | .unknown w => p.ignore w

end Progress

/-- The lines of a payload. -/
def payloadLines (payload : List UInt8) : List (List Char) := lines (Utf8.lenient payload)

/-- Run every line of a payload in order, up to the one that ends the session. -/
def Canvas.process (c : Canvas) (payload : List UInt8) : Progress :=
  (payloadLines payload).foldl Progress.next (.start c)

end Plotter
