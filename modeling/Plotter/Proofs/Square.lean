import Mathlib.Tactic.LinearCombination
import Mathlib.Tactic.Ring
import Plotter.Proofs.Course
import Plotter.Proofs.Trail
import Plotter.Proofs.Turning

/-!
# The square

The example is a square of five steps a side, to the right of the pen. Where its four corners lie
within the extent, so does all of it, and the example draws it and closes it: twenty cells are
marked, once each, and the pen is back where it was (`Canvas.square_closes`). This holds for all
eight headings, so that for four of them the square stands on a corner.

Cells are counted from the pen, by steps ahead and steps to the right (`Canvas.plane`). From the end
of a side they are counted anew, and what was ahead is then to the left
(`Canvas.HoldsSquare.plane_side`). So a square whose corners lie within the extent is one again from
its next corner (`Canvas.HoldsSquare.side`), and four sides are one lemma used four times.

Where the square does not fit, no more is said than that the example is its four sides and turns, one
after the other, as lines can ask for them; the heading and the mode are kept all the same.
-/

namespace Plotter

open Text

/-! ## Quarter turns -/

namespace Heading

/-- The heading a quarter turn to the right: the second one behind, clockwise. -/
def quarter (h : Heading) : Heading := ⟨(h.val + 2) % 8, Nat.mod_lt _ (by decide)⟩

/-- The turn at a corner of the example is a quarter. -/
theorem turnRight_cornerTurn : ∀ h : Heading, h.turnRight Canvas.cornerTurn = h.quarter := by
  decide

/-- Four quarters are a whole turn. -/
theorem quarter_quarter_quarter_quarter : ∀ h : Heading,
    h.quarter.quarter.quarter.quarter = h := by
  decide

/-- A quarter turn to the right takes the offset to the north to one to the east, and the one to the
east to one to the south. -/
theorem offset_quarter : ∀ h : Heading,
    h.quarter.offset.col = h.offset.row ∧ h.quarter.offset.row = -h.offset.col := by
  decide

theorem offset_square_ne_zero : ∀ h : Heading,
    h.offset.col * h.offset.col + h.offset.row * h.offset.row ≠ 0 := by
  decide

end Heading

namespace Canvas

/-! ## Places counted from the pen -/

/-- The point that lies `i` steps ahead of the pen and `j` steps to the right of it. -/
def plane (c : Canvas) (i j : Int) : Int × Int :=
  (c.pen.cell.col + i * c.pen.heading.offset.col + j * c.pen.heading.quarter.offset.col,
    c.pen.cell.row + i * c.pen.heading.offset.row + j * c.pen.heading.quarter.offset.row)

variable {c : Canvas}

/-- The course of the pen lies straight ahead. -/
theorem plane_zero_right (c : Canvas) (i : Int) : c.plane i 0 = c.course i := by
  simp [plane, course, Cell.along]

/-- No two places have the same point. -/
theorem plane_inj {i j k l : Int} (h : c.plane i j = c.plane k l) : i = k ∧ j = l := by
  obtain ⟨hcol, hrow⟩ := Prod.mk.inj h
  obtain ⟨hcol', hrow'⟩ := c.pen.heading.offset_quarter
  have hne := c.pen.heading.offset_square_ne_zero
  rw [hcol'] at hcol
  rw [hrow'] at hrow
  constructor
  · apply mul_right_cancel₀ hne
    linear_combination c.pen.heading.offset.col * hcol + c.pen.heading.offset.row * hrow
  · apply mul_right_cancel₀ hne
    linear_combination c.pen.heading.offset.row * hcol - c.pen.heading.offset.col * hrow

/-! ## One side -/

theorem heading_side (c : Canvas) : c.side.pen.heading = c.pen.heading.quarter := by
  show (walk sideSteps.toNat c).pen.heading.turnRight cornerTurn = c.pen.heading.quarter
  rw [walk_heading, Heading.turnRight_cornerTurn]

theorem extent_side (c : Canvas) : c.side.extent = c.extent :=
  congrArg Setup.extent (walk_setup sideSteps.toNat c)

/-- The corners of the square to the right of the pen lie within the extent, whose numbers of columns
and of rows are words. -/
structure HoldsSquare (c : Canvas) : Prop where
  words : c.extent.OfWords
  /-- The cell of the pen. -/
  start : c.extent.Spans (c.plane 0 0)
  /-- The end of the first side. -/
  ahead : c.extent.Spans (c.plane 5 0)
  /-- The corner opposite to the pen. -/
  opposite : c.extent.Spans (c.plane 5 5)
  /-- The end of the third side. -/
  right : c.extent.Spans (c.plane 0 5)

namespace HoldsSquare

/-- The first side is made on five points straight ahead and ends on the next one. -/
theorem points_stations (h : c.HoldsSquare) :
    (stations 5 c).map (·.pen.cell.point) = (List.range 5).map (fun i : Nat => c.plane i 0) ∧
      (walk 5 c).pen.cell.point = c.plane 5 0 := by
  obtain ⟨he, hstart, hend, -, -⟩ := h
  simp only [plane_zero_right] at hstart hend ⊢
  have hc : c.Inside := by
    rw [course_zero] at hstart
    exact Extent.spans_point.1 hstart
  exact points_stations_of_spans (n := 5) hc he hend

theorem points_strokeCells (h : c.HoldsSquare) :
    (c.strokeCells sideSteps).map Cell.point =
      (List.range 5).map (fun i : Nat => c.plane i 0) := by
  rw [← h.points_stations.1, strokeCells, List.map_map]
  rfl

theorem point_side (h : c.HoldsSquare) : c.side.pen.cell.point = c.plane 5 0 :=
  h.points_stations.2

/-- Counted from the end of the first side, what was to the right is ahead, and what was ahead is to
the left. -/
theorem plane_side (h : c.HoldsSquare) (i j : Int) : c.side.plane i j = c.plane (5 - j) i := by
  obtain ⟨hcol, hrow⟩ := Prod.mk.inj h.point_side
  obtain ⟨hcol', hrow'⟩ := c.pen.heading.offset_quarter
  obtain ⟨hcol'', hrow''⟩ := c.pen.heading.quarter.offset_quarter
  unfold plane
  rw [heading_side, hcol, hrow, hcol'', hrow'', hcol', hrow']
  congr 1 <;> ring

/-- The square is the same one from its next corner. -/
theorem side (h : c.HoldsSquare) : c.side.HoldsSquare := by
  have hspans : ∀ i j, c.extent.Spans (c.plane (5 - j) i) →
      c.side.extent.Spans (c.side.plane i j) := by
    intro i j hij
    rwa [extent_side, h.plane_side]
  exact ⟨by rw [extent_side]; exact h.words, hspans 0 0 h.ahead, hspans 5 0 h.opposite,
    hspans 5 5 h.right, hspans 0 5 h.start⟩

end HoldsSquare

/-! ## All four sides -/

/-- The places of the square, side by side, each side without its last corner. -/
def rim : List (Int × Int) :=
  (List.range 5).map (fun i : Nat => ((i : Int), (0 : Int))) ++
    (List.range 5).map (fun i : Nat => ((5 : Int), (i : Int))) ++
    (List.range 5).map (fun i : Nat => (5 - (i : Int), (5 : Int))) ++
    (List.range 5).map (fun i : Nat => ((0 : Int), 5 - (i : Int)))

/-- The points of the square to the right of the pen, in the order in which they are passed. -/
def perimeter (c : Canvas) : List (Int × Int) := rim.map fun q => c.plane q.1 q.2

theorem length_perimeter (c : Canvas) : c.perimeter.length = 20 := by
  rw [perimeter, List.length_map]
  rfl

/-- The points of the square are different ones, since its places are. -/
theorem nodup_perimeter (c : Canvas) : c.perimeter.Nodup := by
  have hinj : Function.Injective fun q : Int × Int => c.plane q.1 q.2 := by
    rintro ⟨i, j⟩ ⟨k, l⟩ h
    obtain ⟨rfl, rfl⟩ := plane_inj h
    rfl
  exact (List.nodup_map_iff hinj).2 (by decide)

namespace HoldsSquare

/-- The example is made on the points of the square. -/
theorem points_trail (h : c.HoldsSquare) : (c.trail [.test]).map Cell.point = c.perimeter := by
  have htrail : c.trail [.test] = c.corners.flatMap (·.strokeCells sideSteps) := by
    rw [trail_cons, cellsUnder_test]
    exact List.append_nil _
  rw [htrail]
  simp only [corners, List.flatMap_cons, List.flatMap_nil, List.append_nil, List.map_append,
    h.points_strokeCells, h.side.points_strokeCells, h.side.side.points_strokeCells,
    h.side.side.side.points_strokeCells, h.side.side.plane_side, h.side.plane_side, h.plane_side,
    perimeter, rim, List.map_map, Function.comp_def, sub_zero, sub_self, List.append_assoc]

theorem nodup_trail (h : c.HoldsSquare) : (c.trail [.test]).Nodup := by
  apply List.Nodup.of_map Cell.point
  rw [h.points_trail]
  exact nodup_perimeter c

theorem length_trail (h : c.HoldsSquare) : (c.trail [.test]).length = 20 := by
  have hlength := congrArg List.length h.points_trail
  rwa [List.length_map, length_perimeter] at hlength

/-- The pen is back on its cell after four sides. -/
theorem cell_square (h : c.HoldsSquare) : c.square.pen.cell = c.pen.cell := by
  apply Cell.point_inj.1
  rw [square, h.side.side.side.point_side, h.side.side.plane_side, h.side.plane_side,
    h.plane_side, ← course_zero c, ← plane_zero_right]
  rfl

end HoldsSquare

/-- The example leaves the heading, whether or not the square fits. -/
theorem heading_square (c : Canvas) : c.square.pen.heading = c.pen.heading := by
  simp only [square, heading_side, Heading.quarter_quarter_quarter_quarter]

theorem mode_square (c : Canvas) : c.square.pen.mode = c.pen.mode := by
  simp only [square, side_mode]

/-! ## The example as lines -/

/-- The line that asks for the example. -/
def testLine : List UInt8 := Utf8.encode "test\r\n"

/-- The lines that ask for a side and a turn four times, and then for the picture. -/
def squareLines : List UInt8 :=
  Utf8.encode (String.join (List.replicate 4 "steps 5\r\nright 2\r\n") ++ "render\r\n")

theorem process_testLine (c : Canvas) :
    (c.process testLine).canvas = c.square ∧ (c.process testLine).output = c.square.picture ∧
      (c.process testLine).verdict = .goOn := by
  have hscript : script (payloadLines testLine) = [.test] := by decide +kernel
  have hanswers : c.answers [.test] = c.square.picture := by
    simp only [answers, answer, String.append_empty]
  have h := process_of_script hscript (by decide) c
  rwa [hanswers] at h

theorem process_squareLines (c : Canvas) :
    (c.process squareLines).canvas = c.square ∧
      (c.process squareLines).output = c.square.picture ∧
      (c.process squareLines).verdict = .goOn := by
  have hscript : script (payloadLines squareLines) =
      [.steps 5, .right 2, .steps 5, .right 2, .steps 5, .right 2, .steps 5, .right 2, .render] := by
    decide +kernel
  have hsides : c.obeyAll
      [.steps 5, .right 2, .steps 5, .right 2, .steps 5, .right 2, .steps 5, .right 2] =
      c.square := rfl
  have h := process_of_script hscript (by decide) c
  rw [show ([.steps 5, .right 2, .steps 5, .right 2, .steps 5, .right 2, .steps 5, .right 2,
    .render] : List Command) = [.steps 5, .right 2, .steps 5, .right 2, .steps 5, .right 2,
    .steps 5, .right 2] ++ [.render] from rfl, obeyAll_append, answers_append, hsides] at h
  simpa only [obeyAll_cons, obeyAll_nil, obey, answers, answer, String.empty_append,
    String.append_empty] using h

/-! ## The main statement -/

/-- **The example draws a closed square.** If the corners of the square of five steps a side to the
right of the pen lie within the extent, then the pen is as it was after the example, in its cell, its
heading and its mode. The steps of the example are made on the twenty cells of the square, which are
all different; it does nothing but mark them in the mode of the pen, and every other cell is as it
was. On every canvas, the heading and the mode are kept, the line that asks for the example is
answered with the picture of the canvas after it, and the lines which ask four times for five steps
and a quarter turn and then for the picture lead to the same canvas and the same answer. -/
theorem square_closes (c : Canvas) :
    (c.HoldsSquare →
      (c.obey .test).pen = c.pen ∧
        (c.trail [.test]).map Cell.point = c.perimeter ∧
        (c.trail [.test]).Nodup ∧ (c.trail [.test]).length = 20 ∧
        c.history [.test] = (c.trail [.test]).map (Deed.mark · c.pen.mode) ∧
        ∀ e, (c.obey .test).sheet.get? e =
          if e ∈ c.trail [.test] then c.pen.mode.leaves c.setup.glyph (c.sheet.get? e)
          else c.sheet.get? e) ∧
      (c.obey .test).pen.heading = c.pen.heading ∧ (c.obey .test).pen.mode = c.pen.mode ∧
      ((c.process testLine).canvas = c.obey .test ∧
        (c.process testLine).output = (c.process testLine).canvas.picture ∧
        (c.process testLine).verdict = .goOn) ∧
      (c.process squareLines).canvas = (c.process testLine).canvas ∧
      (c.process squareLines).output = (c.process testLine).output ∧
      (c.process squareLines).verdict = (c.process testLine).verdict := by
  have htest : ∀ k ∈ [Command.test], k.steers = true := by decide
  refine ⟨?_, heading_square c, mode_square c, ?_⟩
  · intro h
    have hpen : c.square.pen = c.pen :=
      Pen.ext_heading h.cell_square (mode_square c) (by rw [heading_square])
    exact ⟨hpen, h.points_trail, h.nodup_trail, h.length_trail, history_of_steers htest c,
      get?_obeyAll_of_steers htest c⟩
  · obtain ⟨hcanvas, houtput, hverdict⟩ := c.process_testLine
    obtain ⟨hcanvas', houtput', hverdict'⟩ := c.process_squareLines
    rw [hcanvas', houtput', hverdict', hcanvas, houtput, hverdict]
    exact ⟨⟨rfl, rfl, rfl⟩, rfl, rfl, rfl⟩

/-- On the canvas for which nothing is given, with the pen turned to the north-east, the square stands
on a corner and reaches to the tenth column to the right of the pen. -/
theorem square_closes_diagonal :
    let c := (blank .usual).turnRight 1
    c.HoldsSquare ∧ (c.obey .test).pen = ⟨1, .draw, ⟨15, 14⟩⟩ ∧
      (c.trail [.test]).length = 20 ∧ (c.trail [.test]).Nodup ∧
      (c.obey .test).sheet.get? ⟨25, 14⟩ = some '*' ∧
      (c.obey .test).sheet.get? ⟨26, 14⟩ = none := by
  intro c
  have hspans : ∀ i j : Int, c.plane i j = (15 + i + j, 14 + i - j) := by
    intro i j
    show ((15 : Int) + i * 1 + j * 1, (14 : Int) + i * 1 + j * -1) = _
    rw [mul_one, mul_one, mul_neg_one, sub_eq_add_neg]
  have h : c.HoldsSquare := by
    refine ⟨by decide, ?_, ?_, ?_, ?_⟩ <;> rw [hspans] <;>
      exact ⟨⟨by decide, by decide⟩, by decide, by decide⟩
  obtain ⟨hpen, -, hnodup, hlength, -, hsheet⟩ := (square_closes c).1 h
  have hreached : (⟨25, 14⟩ : Cell) ∈ c.trail [.test] := by decide +kernel
  have hbeyond : (⟨26, 14⟩ : Cell) ∉ c.trail [.test] := by decide +kernel
  refine ⟨h, hpen, hlength, hnodup, ?_, ?_⟩
  · rw [hsheet, if_pos hreached]
    rfl
  · rw [hsheet, if_neg hbeyond]
    exact Sheet.get?_empty _

end Canvas

end Plotter
