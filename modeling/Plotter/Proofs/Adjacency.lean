import Mathlib.Tactic.Ring
import Plotter.Proofs.Course
import Plotter.Proofs.Turning

/-!
# Neighbouring cells and the way back

The cell ahead of a pen is found by two sums of words, of which one that is no word is refused, and
by a comparison with the extent. The refusal is not to be seen: the cell ahead has the sums of
integers as its coordinates where the extent spans that point, and there is none where it does not
(`Extent.ahead?_eq_some_iff_sum`, `Extent.ahead?_eq_none_iff`). This holds up to the largest extents
that words can give and for every cell, those outside the extent among them.

Half a turn reverses the offset of a heading (`Heading.offset_turnRight_half`). So of two cells that
an extent holds, either both lie ahead of each other or neither does (`Extent.ahead?_half_iff`), and
a pen that has moved can go back. The same holds of a stroke of which no step was blocked, by the
course of the pen that has turned: it is the course before, from its end (`Canvas.course_turned`).
A cell outside is another matter, since there the pen can come in but not go back.
-/

namespace Plotter

namespace Heading

/-- Half a turn, in eighths. -/
def half : Int := 4

/-- Half a turn reverses the offset. -/
theorem offset_turnRight_half : ∀ h : Heading,
    (h.turnRight half).offset.col = -h.offset.col ∧
      (h.turnRight half).offset.row = -h.offset.row := by
  decide

/-- Half a turn to the left is half a turn to the right. -/
theorem turnLeft_half : ∀ h : Heading, h.turnLeft half = h.turnRight half := by
  decide

/-- Two halves are a whole turn. -/
theorem turnRight_half_half (h : Heading) : (h.turnRight half).turnRight half = h := by
  have hh := h.isLt
  have hval := val_turnRight h (half + half)
  rw [turnRight_turnRight]
  apply Fin.ext
  unfold half at hval ⊢
  omega

end Heading

/-- From a point of a line, with the heading turned by a half, the line leads back. -/
theorem Cell.along_half {c d : Cell} {h : Heading} {n : Int} (hd : d.point = c.along h.offset n)
    (k : Int) : d.along (h.turnRight Heading.half).offset k = c.along h.offset (n - k) := by
  obtain ⟨hcol, hrow⟩ := Prod.mk.inj hd
  obtain ⟨hcol', hrow'⟩ := h.offset_turnRight_half
  unfold along
  rw [hcol, hrow, hcol', hrow']
  congr 1
  · ring
  · ring

/-! ## The cell ahead -/

namespace Extent

variable {e : Extent} {c d : Cell} {h : Heading}

/-- The cell ahead has the sums of integers as its coordinates and lies within the extent. A sum
that is no word is beyond every extent of words. -/
theorem ahead?_eq_some_iff_sum (he : e.OfWords) :
    e.ahead? c h = some d ↔
      ((d.col : Int) = c.col + h.offset.col ∧ (d.row : Int) = c.row + h.offset.row) ∧
        e.Holds d := by
  rw [ahead?_eq_some_iff_point he, and_comm, Cell.point, Cell.along, Prod.mk.injEq, one_mul,
    one_mul]

/-- There is no cell ahead exactly if the extent does not span the point of the sums. -/
theorem ahead?_eq_none_iff (he : e.OfWords) :
    e.ahead? c h = none ↔ ¬ e.Spans (c.col + h.offset.col, c.row + h.offset.row) := by
  rw [Option.eq_none_iff_forall_ne_some]
  constructor
  · intro hnone hspans
    obtain ⟨d, hpoint, hholds⟩ := exists_point_of_spans hspans
    exact hnone d ((ahead?_eq_some_iff_sum he).2 ⟨Prod.mk.inj hpoint, hholds⟩)
  · intro hspans d hd
    obtain ⟨⟨hcol, hrow⟩, hholds⟩ := (ahead?_eq_some_iff_sum he).1 hd
    rw [← hcol, ← hrow] at hspans
    exact hspans (spans_point.2 hholds)

/-- Of two cells that an extent holds, the first lies ahead of the second exactly if the second lies
ahead of the first in the opposite direction. -/
theorem ahead?_half_iff (he : e.OfWords) (hc : e.Holds c) (hd : e.Holds d) :
    e.ahead? d (h.turnRight Heading.half) = some c ↔ e.ahead? c h = some d := by
  obtain ⟨hcol, hrow⟩ := h.offset_turnRight_half
  rw [ahead?_eq_some_iff_sum he, ahead?_eq_some_iff_sum he, hcol, hrow, and_iff_left hc,
    and_iff_left hd]
  omega

end Extent

/-! ## The way back of a stroke -/

namespace Canvas

variable {c : Canvas}

/-- After a stroke along its course and half a turn, a pen has the same course before it from the
end. -/
theorem course_turned {n : Nat} (hend : (walk n c).pen.cell.point = c.course n) (k : Int) :
    ((walk n c).turnRight Heading.half).course k = c.course (n - k) := by
  show (walk n c).pen.cell.along ((walk n c).pen.heading.turnRight Heading.half).offset k = _
  rw [walk_heading]
  exact Cell.along_half hend k

/-- **A stroke can be gone back.** After a stroke of which no step is blocked, half a turn, as many
steps and half a turn, the pen is what it was. -/
theorem pen_walk_back (hc : c.Inside) (he : c.extent.OfWords) {n : Nat}
    (hn : ∀ b ∈ stations n c, b.step.2 = true) :
    ((walk n ((walk n c).turnRight Heading.half)).turnRight Heading.half).pen = c.pen := by
  have hspans := spans_course_of_moves hc he hn
  have hend := (points_stations_of_spans hc he hspans).2
  have hextent : (walk n c).extent = c.extent := congrArg Setup.extent (walk_setup n c)
  generalize hback : (walk n c).turnRight Heading.half = back
  have hcourse : ∀ k, back.course k = c.course (n - k) := by
    intro k
    rw [← hback, course_turned hend]
  have hwords : back.extent = c.extent := by rw [← hback]; exact hextent
  have hin : back.Inside := by
    rw [Inside, ← Extent.spans_point, ← course_zero, hcourse, sub_zero, hwords]
    exact hspans
  have hstart : back.course n = c.pen.cell.point := by
    rw [hcourse, sub_self, course_zero]
  have hreturn : (walk n back).pen.cell.point = back.course n := by
    refine (points_stations_of_spans hin (hwords ▸ he) ?_).2
    rw [hwords, hstart]
    exact Extent.spans_point.2 hc
  have hheading : (walk n back).pen.heading = c.pen.heading.turnRight Heading.half := by
    rw [walk_heading, ← hback]
    exact congrArg (Heading.turnRight · Heading.half) (walk_heading n c)
  have hmode : (walk n back).pen.mode = c.pen.mode := by
    rw [walk_mode, ← hback]
    exact walk_mode n c
  apply Pen.ext_heading
  · exact Cell.point_inj.1 (hreturn.trans hstart)
  · exact hmode
  · show (((walk n back).pen.heading.turnRight Heading.half).val : Int) = c.pen.heading.val
    rw [hheading, Heading.turnRight_half_half]

end Canvas

/-! ## The main statement -/

/-- **The cell ahead is a sum of integers within the extent.** For every pen, within an extent of
words or outside it, the cell ahead is the one whose coordinates are those of the cell of the pen and
the offset of its heading, added as integers, where the column is less than the columns of the extent
and the row less than its rows; there is none exactly if one of the sums is negative or too large for
the extent. A pen within the extent that moves to the cell ahead and turns by four eighths, to either
side, has the cell from which it came ahead, and one that has made a stroke of which no step was
blocked is what it was after half a turn, the same stroke and half a turn. -/
theorem Pen.ahead?_exact {e : Extent} (he : e.OfWords) (p : Pen) :
    (∀ d, p.ahead? e = some d ↔
      ((d.col : Int) = p.cell.col + p.heading.offset.col ∧
          (d.row : Int) = p.cell.row + p.heading.offset.row) ∧
        d.col < e.cols ∧ d.row < e.rows) ∧
      (p.ahead? e = none ↔
        ¬ ((0 ≤ p.cell.col + p.heading.offset.col ∧ p.cell.col + p.heading.offset.col < e.cols) ∧
          0 ≤ p.cell.row + p.heading.offset.row ∧ p.cell.row + p.heading.offset.row < e.rows)) ∧
      (e.Holds p.cell →
        (∀ d, p.ahead? e = some d →
          (({ p with cell := d } : Pen).turnRight 4).ahead? e = some p.cell ∧
            (({ p with cell := d } : Pen).turnLeft 4).ahead? e = some p.cell) ∧
        ∀ c : Canvas, c.pen = p → c.extent = e → ∀ n : Int,
          (∀ b ∈ Canvas.stations n.toNat c, b.step.2 = true) →
            ((((c.steps n).turnRight 4).steps n).turnRight 4).pen = p) := by
  refine ⟨fun d => Extent.ahead?_eq_some_iff_sum he, Extent.ahead?_eq_none_iff he, ?_⟩
  intro hp
  refine ⟨?_, ?_⟩
  · intro d hd
    have hback : e.ahead? d (p.heading.turnRight Heading.half) = some p.cell :=
      (Extent.ahead?_half_iff he hp (Extent.holds_of_ahead? hd)).2 hd
    refine ⟨hback, ?_⟩
    rw [← Heading.turnLeft_half] at hback
    exact hback
  · rintro c rfl rfl n hn
    exact Canvas.pen_walk_back hp he hn

/-- On the largest canvas that words can give: a pen in the corner on the lower right goes one step
to the north-west and back. A pen beside the last column comes in but does not go back, and none goes
to the column whose number would be no word. -/
theorem Pen.ahead?_exact_largest :
    let e : Extent := ⟨2 ^ 64 - 1, 2 ^ 64 - 1⟩
    let p : Pen := ⟨7, .draw, ⟨2 ^ 64 - 2, 0⟩⟩
    let c : Canvas := ⟨⟨e, '*', p.cell⟩, Sheet.empty, p⟩
    let q : Pen := ⟨6, .draw, ⟨2 ^ 64 - 1, 0⟩⟩
    e.OfWords ∧ e.Holds p.cell ∧ p.ahead? e = some ⟨2 ^ 64 - 3, 1⟩ ∧
      (({ p with cell := ⟨2 ^ 64 - 3, 1⟩ } : Pen).turnRight 4).ahead? e = some p.cell ∧
      ((((c.steps 1).turnRight 4).steps 1).turnRight 4).pen = p ∧
      ¬ e.Holds q.cell ∧ q.ahead? e = some p.cell ∧
      (({ q with cell := p.cell } : Pen).turnRight 4).ahead? e = none ∧
      (q.turnRight 4).ahead? e = none := by
  intro e p c q
  have he : e.OfWords := by decide
  have hp : e.Holds p.cell := by decide
  obtain ⟨hsome, -, hback⟩ := Pen.ahead?_exact he p
  have hahead : p.ahead? e = some ⟨2 ^ 64 - 3, 1⟩ := (hsome _).2 (by decide)
  obtain ⟨hmove, hstroke⟩ := hback hp
  have hnext : c.pen.ahead? c.extent = some ⟨2 ^ 64 - 3, 1⟩ := hahead
  have hone : ∀ b ∈ Canvas.stations 1 c, b.step.2 = true := by
    rw [Canvas.stations_succ_of_ahead hnext, Canvas.stations_zero, List.forall_mem_singleton,
      Canvas.step_of_ahead hnext]
  refine ⟨he, hp, hahead, (hmove _ hahead).1, hstroke c rfl rfl 1 hone, by decide, ?_, ?_, ?_⟩
  · exact ((Pen.ahead?_exact he q).1 _).2 (by decide)
  · exact (Pen.ahead?_exact he _).2.1.2 (by decide)
  · exact (Pen.ahead?_exact he _).2.1.2 (by decide)

end Plotter
