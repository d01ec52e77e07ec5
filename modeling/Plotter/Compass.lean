import Plotter.Text.Numeral

/-!
# Headings

A pen faces one of eight compass points, counted clockwise from north. This file says where each
point leads (`Heading.offset`), which arrow stands for it (`Heading.arrow`) and how a pen turns
(`Heading.turnRight`, `Heading.turnLeft`).

A turn by any integer is first reduced to fewer than eight eighths and then added
(`Heading.turnBy`). The numbers on the way can be formed as they are (`Heading.turnRight`) or in
signed words, where a number that is none is refused, and so is a result that is none of the eight
(`Heading.turnRight?`); however large the turn, nothing ever is (`Heading.turnRight?_eq`). The law of
the file is `Heading.val_turnRight`: turning is addition of integers modulo eight.
-/

namespace Plotter

open Text

/-- A displacement by whole cells: columns to the east, rows to the north. -/
structure Offset where
  /-- Columns to the east. -/
  col : Int
  /-- Rows to the north. -/
  row : Int
deriving DecidableEq, Repr

/-- One of the eight compass points, counted clockwise from north. -/
abbrev Heading := Fin 8

namespace Heading

/-- North, the point from which the others are counted. -/
def north : Heading := 0

/-- The neighbouring cell that lies in this direction. -/
def offset : Heading → Offset
  | 0 => ⟨0, 1⟩
  | 1 => ⟨1, 1⟩
  | 2 => ⟨1, 0⟩
  | 3 => ⟨1, -1⟩
  | 4 => ⟨0, -1⟩
  | 5 => ⟨-1, -1⟩
  | 6 => ⟨-1, 0⟩
  | 7 => ⟨-1, 1⟩

/-- The arrow that stands for this direction in the journal. -/
def arrow : Heading → Char
  | 0 => '↑'
  | 1 => '↗'
  | 2 => '→'
  | 3 => '↘'
  | 4 => '↓'
  | 5 => '↙'
  | 6 => '←'
  | 7 => '↖'

/-- The heading with a number, unless that is none of the eight. -/
def ofInt? (n : Int) : Option Heading :=
  if h : 0 ≤ n ∧ n < 8 then some ⟨n.toNat, by omega⟩ else none

/-- What has been reduced modulo eight is the heading with that number. -/
theorem ofInt?_eq_some {n : Int} {g : Heading} (h : n = g.val) : ofInt? n = some g := by
  have hg := g.isLt
  have hbounds : 0 ≤ n ∧ n < 8 := by omega
  unfold ofInt?
  rw [dif_pos hbounds, Option.some.injEq]
  apply Fin.ext
  show n.toNat = g.val
  omega

/-! ## Turning -/

/-- The number of the heading after `n` eighths of a turn clockwise: the remainder of the eighths is
added to the heading, and the remainder of the sum is taken. How these numbers are formed is left
open. -/
def turnBy {m : Type → Type} [Monad m] (form : Int → m Int) (h : Heading) (n : Int) : m Int := do
  let rest ← form (n % 8)
  let sum ← form (h.val + rest)
  form (sum % 8)

/-- The heading after `n` eighths of a turn clockwise; a negative `n` turns the other way. -/
def turnRight (h : Heading) (n : Int) : Heading := Fin.ofNat 8 (h.turnBy (m := Id) id n).toNat

/-- The heading after `n` eighths of a turn counter-clockwise. -/
def turnLeft (h : Heading) (n : Int) : Heading := h.turnRight (-n)

/-- A turn clockwise in signed words, refused if a number is formed that is none, or a heading that
is none of the eight. -/
def turnRight? (h : Heading) (n : Int) : Option Heading := do
  ofInt? (← h.turnBy formed? n)

/-- A turn counter-clockwise in signed words: one clockwise by the opposite of the eighths, refused
if that is no signed word. -/
def turnLeft? (h : Heading) (n : Int) : Option Heading := do
  h.turnRight? (← formed? (-n))

/-- A turn adds its eighths modulo eight. -/
theorem val_turnRight (h : Heading) (n : Int) :
    ((h.turnRight n).val : Int) = (h.val + n) % 8 := by
  show ((((h.val + n % 8) % 8).toNat % 8 : Nat) : Int) = (h.val + n) % 8
  omega

/-- A turn clockwise is never refused, whatever the number of its eighths. -/
theorem turnRight?_eq (h : Heading) (n : Int) : h.turnRight? n = some (h.turnRight n) := by
  have hh := h.isLt
  have hrest : formed? (n % 8) = some (n % 8) :=
    formed?_eq_some_iff.2 ⟨by unfold FitsSigned; omega, rfl⟩
  have hsum : formed? (h.val + n % 8) = some (h.val + n % 8) :=
    formed?_eq_some_iff.2 ⟨by unfold FitsSigned; omega, rfl⟩
  have hvalue : formed? ((h.val + n % 8) % 8) = some ((h.val + n % 8) % 8) :=
    formed?_eq_some_iff.2 ⟨by unfold FitsSigned; omega, rfl⟩
  have hheading : ofInt? ((h.val + n % 8) % 8) = some (h.turnRight n) := by
    apply ofInt?_eq_some
    rw [val_turnRight, Int.add_emod_emod]
  simp only [turnRight?, turnBy, hrest, hsum, hvalue, hheading, Option.bind_eq_bind,
    Option.bind_some]

/-- A turn counter-clockwise is refused exactly if the opposite of its eighths is no signed word. -/
theorem turnLeft?_eq_some_iff {h g : Heading} {n : Int} :
    h.turnLeft? n = some g ↔ FitsSigned (-n) ∧ h.turnLeft n = g := by
  unfold turnLeft? turnLeft
  rw [Option.bind_eq_bind, Option.bind_eq_some_iff]
  constructor
  · rintro ⟨m, hm, hg⟩
    obtain ⟨hfits, rfl⟩ := formed?_eq_some_iff.1 hm
    rw [turnRight?_eq, Option.some.injEq] at hg
    exact ⟨hfits, hg⟩
  · rintro ⟨hfits, rfl⟩
    exact ⟨-n, formed?_eq_some_iff.2 ⟨hfits, rfl⟩, turnRight?_eq h (-n)⟩

/-- A turn to the left takes its eighths away modulo eight. -/
theorem val_turnLeft (h : Heading) (n : Int) : ((h.turnLeft n).val : Int) = (h.val - n) % 8 := by
  rw [turnLeft, val_turnRight]
  rfl

/-- A turn by nothing leaves the heading. -/
@[simp] theorem turnRight_zero (h : Heading) : h.turnRight 0 = h := by
  apply Fin.ext
  have := val_turnRight h 0
  omega

/-- Turns one after the other add up. -/
theorem turnRight_turnRight (h : Heading) (m n : Int) :
    (h.turnRight m).turnRight n = h.turnRight (m + n) := by
  apply Fin.ext
  have h₁ := val_turnRight (h.turnRight m) n
  have h₂ := val_turnRight h m
  have h₃ := val_turnRight h (m + n)
  omega

end Heading

end Plotter
