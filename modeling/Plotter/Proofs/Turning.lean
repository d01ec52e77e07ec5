import Mathlib.Algebra.Order.Ring.Int
import Mathlib.Data.List.Perm.Basic
import Plotter.Pen

/-!
# Turning

A pen turns by any number of eighths that a signed word can say, and any number of times. However
large the numbers are, and even where their sum is far beyond a word, only the sum of the turns to
the right less that of the turns to the left matters, and only modulo eight
(`Pen.turnAll_adds`). So the order of turns is of no consequence.

On the way no number leaves the signed words. This is said by the turns that are refused as soon as
a number is formed that is none (`Heading.turn?`). A turn to the right is never refused, since it
adds a remainder of eight and not the number given (`Heading.turnRight?_eq`). A turn to the left
takes the opposite of its number first, and the least signed word has none; that is the only turn
that is refused (`Heading.turnLeft?_eq_some_iff`).
-/

namespace Plotter

open Text

/-- A turn by so many eighths, to one side or to the other. -/
inductive Turn
  /-- Counter-clockwise. -/
  | left (n : Int)
  /-- Clockwise. -/
  | right (n : Int)
deriving DecidableEq, Repr

namespace Turn

/-- The eighths that a turn gives to the left. -/
def leftward : Turn → Int
  | left n => n
  | right _ => 0

/-- The eighths that a turn gives to the right. -/
def rightward : Turn → Int
  | left _ => 0
  | right n => n

/-- The number of eighths is a signed word, and not the least one if the turn is to the left. -/
def Fits : Turn → Prop
  | left n => FitsSigned n ∧ n ≠ -2 ^ 63
  | right n => FitsSigned n

instance : DecidablePred Fits
  | left n => inferInstanceAs (Decidable (FitsSigned n ∧ n ≠ -2 ^ 63))
  | right n => inferInstanceAs (Decidable (FitsSigned n))

end Turn

/-- A turn in signed words. -/
def Heading.turn? (h : Heading) : Turn → Option Heading
  | .left n => h.turnLeft? n
  | .right n => h.turnRight? n

/-! ## A run of turns -/

namespace Pen

/-- The pen after a turn. -/
def turn (p : Pen) : Turn → Pen
  | .left n => p.turnLeft n
  | .right n => p.turnRight n

/-- The pen after turns, one after the other. -/
def turnAll (p : Pen) (ts : List Turn) : Pen := ts.foldl turn p

@[simp] theorem turnAll_cons (p : Pen) (t : Turn) (ts : List Turn) :
    p.turnAll (t :: ts) = (p.turn t).turnAll ts := rfl

@[simp] theorem turn_cell (p : Pen) (t : Turn) : (p.turn t).cell = p.cell := by
  cases t <;> rfl

@[simp] theorem turn_mode (p : Pen) (t : Turn) : (p.turn t).mode = p.mode := by
  cases t <;> rfl

/-- One turn adds its eighths modulo eight, those to the left with the opposite sign. -/
theorem val_heading_turn (p : Pen) (t : Turn) :
    ((p.turn t).heading.val : Int) = (p.heading.val + t.rightward - t.leftward) % 8 := by
  cases t with
  | left n =>
    rw [turn, turnLeft, Heading.val_turnLeft, Turn.rightward, Turn.leftward, Int.add_zero]
  | right n =>
    rw [turn, turnRight, Heading.val_turnRight, Turn.rightward, Turn.leftward, Int.sub_zero]

/-- A turn by a number that fits is not refused. -/
theorem heading_turn? {t : Turn} (ht : t.Fits) (p : Pen) :
    p.heading.turn? t = some (p.turn t).heading := by
  cases t with
  | left n =>
    obtain ⟨hfits, hleast⟩ := ht
    refine Heading.turnLeft?_eq_some_iff.2 ⟨?_, rfl⟩
    unfold FitsSigned at hfits ⊢
    omega
  | right n => exact Heading.turnRight?_eq p.heading n

/-- Pens on the same cell and in the same mode are equal if their headings have the same number. -/
theorem ext_heading {p q : Pen} (hcell : p.cell = q.cell) (hmode : p.mode = q.mode)
    (h : (p.heading.val : Int) = q.heading.val) : p = q := by
  obtain ⟨g, m, c⟩ := p
  obtain ⟨g', m', c'⟩ := q
  obtain rfl : c = c' := hcell
  obtain rfl : m = m' := hmode
  obtain rfl : g = g' := Fin.ext (Int.ofNat_inj.1 h)
  rfl

/-- Two turns can be made in either order. -/
theorem turn_turn_comm (p : Pen) (t u : Turn) : (p.turn t).turn u = (p.turn u).turn t := by
  apply ext_heading
  · simp only [turn_cell]
  · simp only [turn_mode]
  · have h₁ := val_heading_turn (p.turn t) u
    have h₂ := val_heading_turn p t
    have h₃ := val_heading_turn (p.turn u) t
    have h₄ := val_heading_turn p u
    omega

instance : RightCommutative turn := ⟨turn_turn_comm⟩

@[simp] theorem turnAll_cell (p : Pen) (ts : List Turn) : (p.turnAll ts).cell = p.cell := by
  induction ts generalizing p with
  | nil => rfl
  | cons t ts ih => rw [turnAll_cons, ih, turn_cell]

@[simp] theorem turnAll_mode (p : Pen) (ts : List Turn) : (p.turnAll ts).mode = p.mode := by
  induction ts generalizing p with
  | nil => rfl
  | cons t ts ih => rw [turnAll_cons, ih, turn_mode]

/-- Turns add up modulo eight. -/
theorem val_heading_turnAll (p : Pen) (ts : List Turn) :
    ((p.turnAll ts).heading.val : Int) =
      (p.heading.val + (ts.map Turn.rightward).sum - (ts.map Turn.leftward).sum) % 8 := by
  induction ts generalizing p with
  | nil =>
    have hh := p.heading.isLt
    simp only [turnAll, List.foldl_nil, List.map_nil, List.sum_nil]
    omega
  | cons t ts ih =>
    have hturn := val_heading_turn p t
    have hrest := ih (p.turn t)
    rw [turnAll_cons, List.map_cons, List.map_cons, List.sum_cons, List.sum_cons]
    omega

/-- Turns by numbers that fit are not refused, and lead to the same heading. -/
theorem foldlM_turn? {ts : List Turn} (hts : ∀ t ∈ ts, t.Fits) (p : Pen) :
    ts.foldlM Heading.turn? p.heading = some (p.turnAll ts).heading := by
  induction ts generalizing p with
  | nil => rfl
  | cons t ts ih =>
    obtain ⟨ht, hrest⟩ := List.forall_mem_cons.1 hts
    rw [List.foldlM_cons, heading_turn? ht, Option.bind_eq_bind, Option.bind_some, ih hrest,
      turnAll_cons]

/-- A turn to the right undoes one to the left by as many eighths. -/
theorem turnRight_turnLeft (p : Pen) (n : Int) : (p.turnLeft n).turnRight n = p := by
  have h : (p.heading.turnLeft n).turnRight n = p.heading := by
    rw [Heading.turnLeft, Heading.turnRight_turnRight, Int.add_left_neg, Heading.turnRight_zero]
  simp only [turnRight, turnLeft, h]

/-- **Turning is addition modulo eight.** After any turns by numbers that fit, the heading is the
one from which they began, with all turns to the right added and all turns to the left taken away,
modulo eight; the sums are those of integers and may be beyond every word. No number formed on the
way is beyond the signed words, and each heading on the way is one of the eight. The same turns in
another order lead to the same pen, a turn to the left is undone by the same turn to the right, and
neither the cell nor the mode of the pen is touched. -/
theorem turnAll_adds (p : Pen) {ts : List Turn} (hts : ∀ t ∈ ts, t.Fits) :
    ((p.turnAll ts).heading.val : Int) =
        (p.heading.val + (ts.map Turn.rightward).sum - (ts.map Turn.leftward).sum) % 8 ∧
      ts.foldlM Heading.turn? p.heading = some (p.turnAll ts).heading ∧
      (∀ us : List Turn, us.Perm ts → p.turnAll us = p.turnAll ts) ∧
      (∀ n, (p.turnLeft n).turnRight n = p) ∧
      (p.turnAll ts).cell = p.cell ∧ (p.turnAll ts).mode = p.mode :=
  ⟨val_heading_turnAll p ts, foldlM_turn? hts p, fun _ h => h.foldl_eq p, turnRight_turnLeft p,
    turnAll_cell p ts, turnAll_mode p ts⟩

/-- Turns to the left whose sum is no word, one to the right by the least signed word and one more
lead from the north-west to the south. -/
theorem turnAll_adds_beyond :
    let p : Pen := ⟨7, .hover, ⟨3, 4⟩⟩
    let ts : List Turn := [.left (2 ^ 63 - 1), .left (2 ^ 63 - 1), .right (-2 ^ 63), .right 3]
    (∀ t ∈ ts, t.Fits) ∧ ¬ FitsSigned (ts.map Turn.leftward).sum ∧
      (p.turnAll ts).heading = 4 ∧ ts.foldlM Heading.turn? p.heading = some 4 ∧
      p.turnAll ts.reverse = p.turnAll ts ∧ (p.turnAll ts).cell = ⟨3, 4⟩ := by
  intro p ts
  have hts : ∀ t ∈ ts, t.Fits := by decide
  obtain ⟨hheading, hwords, horder, -, hcell, -⟩ := turnAll_adds p hts
  have hsouth : (p.turnAll ts).heading = 4 := by
    apply Fin.ext
    apply Int.ofNat_inj.1
    rw [hheading]
    decide
  rw [hsouth] at hwords
  exact ⟨hts, by decide, hsouth, hwords, horder _ ts.reverse_perm, hcell⟩

/-- The least signed word has no opposite. -/
example : Heading.turn? 0 (.left (-2 ^ 63)) = none := by decide

end Pen

end Plotter
