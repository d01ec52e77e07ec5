import Plotter.Text.Blank
import Plotter.Text.Lowercase
import Plotter.Text.Numeral

/-!
# Commands

A client sends one command a line: a word, and for some words a number after a space. This file says
which commands there are (`Command`), by which words they are called (`Verb`) and how a line is read
(`Reading.ofLine`).

A line is first brought into one form (`normal`): carriage returns and line feeds are removed, then
the blanks at both ends, and the rest is put into lower case. The word ends at the first space; no
other blank ends it. A number that is missing, malformed or out of range counts as not given, and
then the word's usual number is taken. A line whose word calls no command is kept with that word.
-/

namespace Plotter

open Text

/-- What a client asks for. -/
inductive Command
  /-- A stroke of so many steps. -/
  | steps (n : Int)
  /-- So many eighths of a turn counter-clockwise. -/
  | left (n : Int)
  /-- So many eighths of a turn clockwise. -/
  | right (n : Int)
  /-- Leave nothing behind from now on. -/
  | hover
  /-- Write the glyph from now on. -/
  | draw
  /-- Empty cells from now on. -/
  | erase
  /-- Report the place of the pen. -/
  | coord
  /-- Send the picture. -/
  | render
  /-- Remove every glyph. -/
  | clear
  /-- End the session. -/
  | quit
  /-- Draw the example and send the picture. -/
  | test
deriving DecidableEq, Repr

/-- The words that call commands. -/
inductive Verb
  | steps
  | left
  | right
  | hover
  | draw
  | erase
  | coord
  | render
  | clear
  | quit
  | test
deriving DecidableEq, Repr

namespace Verb

/-- All words. -/
def all : List Verb :=
  [steps, left, right, hover, draw, erase, coord, render, clear, quit, test]

/-- How a word is spelt. -/
def spelling : Verb → List Char
  | steps => ['s', 't', 'e', 'p', 's']
  | left => ['l', 'e', 'f', 't']
  | right => ['r', 'i', 'g', 'h', 't']
  | hover => ['h', 'o', 'v', 'e', 'r']
  | draw => ['d', 'r', 'a', 'w']
  | erase => ['e', 'r', 'a', 's', 'e']
  | coord => ['c', 'o', 'o', 'r', 'd']
  | render => ['r', 'e', 'n', 'd', 'e', 'r']
  | clear => ['c', 'l', 'e', 'a', 'r']
  | quit => ['q', 'u', 'i', 't']
  | test => ['t', 'e', 's', 't']

/-- The word with a spelling. -/
def ofSpelling? (s : List Char) : Option Verb := all.find? (·.spelling == s)

/-- The command that a word calls, with the number given to it. -/
def command (v : Verb) (n : Option Int) : Command :=
  match v with
  | steps => .steps (n.getD 0)
  | left => .left (n.getD 1)
  | right => .right (n.getD 1)
  | hover => .hover
  | draw => .draw
  | erase => .erase
  | coord => .coord
  | render => .render
  | clear => .clear
  | quit => .quit
  | test => .test

/-- Every word is found by its spelling, and a spelling finds no other word. -/
theorem ofSpelling?_eq_some_iff {s : List Char} {v : Verb} :
    ofSpelling? s = some v ↔ v.spelling = s := by
  constructor
  · intro h
    unfold ofSpelling? at h
    have := List.find?_some h
    simpa using this
  · rintro rfl
    cases v <;> rfl

end Verb

/-! ## Reading a line -/

/-- A line without the ends of lines in it and the blanks around it, in lower case. -/
def normal (line : List Char) : List Char :=
  lower (trim (line.filter fun c => c != '\r' && c != '\n'))

/-- The characters before the first space. -/
def word (s : List Char) : List Char := s.takeWhile (· != ' ')

/-- The characters behind the first space, of which there are none if there is no space. -/
def behindWord (s : List Char) : List Char := (s.dropWhile (· != ' ')).drop 1

/-- The number given after a word: the first word behind the space, if that is an integer of
sixty-four bits. -/
def argument? (s : List Char) : Option Int := (firstWord? (behindWord s)).bind signed?

/-- What a line says. -/
inductive Reading
  /-- The line gives a command. -/
  | command (c : Command)
  /-- The word of the line calls no command. -/
  | unknown (word : List Char)
deriving DecidableEq, Repr

/-- What a line in its one form says. -/
def Reading.ofNormal (s : List Char) : Reading :=
  match Verb.ofSpelling? (word s) with
  | some v => .command (v.command (argument? s))
  | none => .unknown (word s)

/-- What a line says. -/
def Reading.ofLine (line : List Char) : Reading := .ofNormal (normal line)

end Plotter
