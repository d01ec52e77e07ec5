import Plotter.Text.CodeSet

/-!
# Blanks

A blank is a character with the Unicode property White_Space. This file cuts blanks off both ends of
a text (`trim`) and finds the first word of a text (`firstWord?`), a word being a run of characters
between blanks.
-/

namespace Plotter.Text

/-- The characters with the property White_Space. -/
def blanks : CodeSet := [
  (0x9, 0xD), (0x20, 0x20), (0x85, 0x85), (0xA0, 0xA0), (0x1680, 0x1680), (0x2000, 0x200A),
  (0x2028, 0x2029), (0x202F, 0x202F), (0x205F, 0x205F), (0x3000, 0x3000)]

/-- A character is a blank. -/
def isBlank (c : Char) : Bool := blanks.contains c

/-- The text without the blanks at its end. -/
def trimEnd (s : List Char) : List Char := (s.reverse.dropWhile isBlank).reverse

/-- The text without the blanks at either end. -/
def trim (s : List Char) : List Char := trimEnd (s.dropWhile isBlank)

/-- The first word of a text, if it has one. -/
def firstWord? (s : List Char) : Option (List Char) :=
  match (s.dropWhile isBlank).takeWhile (fun c => !isBlank c) with
  | [] => none
  | w => some w

end Plotter.Text
