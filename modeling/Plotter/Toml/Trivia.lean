/-!
# Blanks, comments and the ends of lines in TOML

A line ends in a line feed, before which there may be a carriage return; a carriage return alone is
never allowed. Blanks are spaces and tabs. A comment goes from a number sign to the end of its line
and holds no control character but tabs.
-/

namespace Plotter.Toml

/-- A blank within a line. -/
def isBlank (c : Char) : Bool := c == ' ' || c == '\t'

/-- A character of a comment or of the inside of a string, where nothing else forbids it: not a
control character of the ASCII set, the tab excepted. -/
def isPlain (c : Char) : Bool := c == '\t' || (decide (0x20 ≤ c.toNat) && c.toNat != 0x7F)

/-- The text behind blanks. -/
def skipBlanks (s : List Char) : List Char := s.dropWhile isBlank

/-- The text behind the end of a line that comes first. -/
def lineEnd? : List Char → Option (List Char)
  | '\n' :: rest => some rest
  | '\r' :: '\n' :: rest => some rest
  | _ => none

/-- The text behind an end of a line that may come first. -/
def skipLineEnd (s : List Char) : List Char := (lineEnd? s).getD s

/-- The text behind a comment that may come first. -/
def skipComment : List Char → List Char
  | '#' :: rest => rest.dropWhile isPlain
  | s => s

/-- The text behind the rest of a line on which nothing more is said. -/
def restOfLine? (s : List Char) : Option (List Char) :=
  match skipComment (skipBlanks s) with
  | [] => some []
  | t => lineEnd? t

/-- The text behind blanks, ends of lines and comments. A comment has to end with its line. -/
def skipTrivia? (inComment : Bool) : List Char → Option (List Char)
  | [] => if inComment then none else some []
  | '\r' :: '\n' :: rest => skipTrivia? false rest
  | c :: rest =>
    if c = '\n' then skipTrivia? false rest
    else if inComment then if isPlain c then skipTrivia? true rest else none
    else if isBlank c then skipTrivia? false rest
    else if c = '#' then skipTrivia? true rest
    else some (c :: rest)

end Plotter.Toml
