import Plotter.Proofs.Course
import Plotter.Proofs.Picture
import Plotter.Proofs.Text.Numeral

/-!
# Places in a picture

The place that a canvas reports for its pen and the place at which a picture shows a cell are counted
in the same way: columns from the left, rows from the top. Both turn the rows of the canvas upside
down, but each by itself, the report by a subtraction and the picture by the order of its lines. They
agree (`Canvas.place_in_picture`): on a reachable canvas, what the picture shows at the place that is
reported is the content of the cell of the pen, and the place tells that cell from all others.

So a client that has asked for the place and then makes a step knows where the picture changes, and
that it changes nowhere else.
-/

namespace Plotter

open Text

/-! ## Numbers and places as text -/

/-- Numbers are written as the standard library writes them. -/
theorem Text.decimal_eq_toDigits (n : Nat) : decimal n = Nat.toDigits 10 n := by
  fun_induction decimal n with
  | case1 n hn => rw [Nat.toDigits_of_lt_base hn]
  | case2 n hn ih => rw [Nat.toDigits_eq_if (by decide), if_neg hn, ih]

/-- Different numbers are written differently. -/
theorem Text.decimal_inj {m n : Nat} : decimal m = decimal n ↔ m = n := by
  constructor
  · intro h
    have hvalue := congrArg digitsValue h
    rwa [digitsValue_decimal, digitsValue_decimal] at hvalue
  · rintro rfl
    rfl

/-- The cell that clients know by a place, its row counted from the top. -/
def Extent.cellAt (e : Extent) (q : Nat × Nat) : Cell := ⟨q.1, e.rows - (q.2 + 1)⟩

/-- The character that a picture shows at a place: that behind the bar and `x` others in the line
behind the upper edge and `y` others. -/
def bodyChar? (picture : String) (x y : Nat) : Option Char :=
  (lines picture.toList)[y + 1]?.bind (·[x + 1]?)

namespace Canvas

/-- The line with a place tells the place. -/
theorem placeLine_inj {p q : Nat × Nat} : placeLine p = placeLine q ↔ p = q := by
  constructor
  · intro h
    have hcomma : ∀ n, ',' ∉ decimal n := fun n hn => by cases isDigit_of_mem_decimal hn
    simp only [placeLine, List.append_assoc, List.singleton_append] at h
    obtain ⟨hcol, hrest⟩ :=
      append_cons_inj_of_not_mem (hcomma p.1) (hcomma q.1) (List.cons.inj h).2
    have hrow := List.append_cancel_right hrest
    exact Prod.ext (decimal_inj.1 hcol) (decimal_inj.1 hrow)
  · rintro rfl
    rfl

/-- The text of a report. -/
theorem placeReport_eq (c : Canvas) :
    c.placeReport = "(" ++ toString c.coord.1 ++ "," ++ toString c.coord.2 ++ ")\r\n" := by
  apply String.toList_inj.1
  simp [placeReport, placeLine, terminate, crlf, decimal_eq_toDigits, Nat.toString_eq_repr,
    Nat.toList_repr]

theorem placeReport_inj {c d : Canvas} : c.placeReport = d.placeReport ↔ c.coord = d.coord := by
  rw [placeReport, placeReport, String.ofList_inj, terminate_cons, terminate_cons,
    List.append_assoc, List.append_assoc, List.append_left_inj, placeLine_inj]

/-! ## Places and cells -/

variable {s t : Setup} {c d : Canvas}

/-- The place of the pen is one of the picture. -/
theorem coord_lt (hc : c.Inside) :
    c.coord.1 < c.extent.cols ∧ c.coord.2 < c.extent.rows := by
  obtain ⟨hcol, hrow⟩ := hc
  refine ⟨hcol, ?_⟩
  show c.extent.rows - (c.pen.cell.row + 1) < c.extent.rows
  omega

/-- The cell at the place of the pen is that of the pen. -/
theorem cellAt_coord (hc : c.Inside) : c.extent.cellAt c.coord = c.pen.cell := by
  obtain ⟨-, hrow⟩ := hc
  have hflip : c.extent.rows - (c.extent.rows - (c.pen.cell.row + 1) + 1) = c.pen.cell.row := by
    omega
  show (⟨c.pen.cell.col, _⟩ : Cell) = c.pen.cell
  rw [coord, hflip]

/-- Different places of a picture are different cells. -/
theorem cellAt_inj {e : Extent} {p q : Nat × Nat} (hp : p.2 < e.rows) (hq : q.2 < e.rows) :
    e.cellAt p = e.cellAt q ↔ p = q := by
  constructor
  · intro h
    obtain ⟨hcol, hrow⟩ := Cell.mk.inj h
    exact Prod.ext hcol (by omega)
  · rintro rfl
    rfl

/-- Pens within the same extent have the same place exactly if they stand on the same cell. -/
theorem coord_eq_iff (hc : c.Inside) (hd : d.Inside) (he : c.extent = d.extent) :
    c.coord = d.coord ↔ c.pen.cell = d.pen.cell := by
  constructor
  · intro h
    rw [← cellAt_coord hc, ← cellAt_coord hd, he, h]
  · intro h
    rw [coord, coord, he, h]

/-- A picture shows at every place what the cell there holds. -/
theorem Sound.bodyChar?_picture (h : Sound s c) {x y : Nat} (hx : x < s.extent.cols)
    (hy : y < s.extent.rows) :
    bodyChar? c.picture x y = some (c.shown (s.extent.cellAt (x, y))) := by
  rw [← h.extent_eq] at hx hy ⊢
  obtain ⟨l, hl, -, -, -, hcells⟩ := h.shownBy_lines_picture.row (y + 1) (by omega) (by omega)
  rw [bodyChar?, hl, Option.bind_some, hcells x hx]
  rfl

/-! ## What a step changes -/

theorem stepped_setup (c : Canvas) : c.stepped.setup = c.setup := by
  rcases h : c.pen.ahead? c.extent with _ | d
  · rw [stepped_of_blocked h, mark_setup]
  · rw [stepped_of_ahead h, moved_setup, mark_setup]

theorem stepped_sheet (c : Canvas) : c.stepped.sheet = c.mark.sheet := by
  rcases h : c.pen.ahead? c.extent with _ | d
  · rw [stepped_of_blocked h]
  · rw [stepped_of_ahead h, moved_sheet]

/-- What a step leaves to be seen of the cells. -/
theorem shown_stepped (c : Canvas) (e : Cell) :
    c.stepped.shown e =
      if c.pen.cell = e then (c.pen.mode.leaves c.setup.glyph (c.sheet.get? e)).getD ' '
      else c.shown e := by
  rw [shown, stepped_sheet, get?_mark_sheet]
  split <;> rfl

/-- A step that is not blocked leads to another cell. -/
theorem cell_stepped_ne (h : c.step.2 = true) : c.stepped.pen.cell ≠ c.pen.cell := by
  rcases ha : c.pen.ahead? c.extent with _ | d
  · rw [step_of_blocked ha] at h
    cases h
  · obtain ⟨hcol, hrow, -⟩ := offset_of_ahead? ha
    rw [stepped_of_ahead ha, moved_cell]
    rintro rfl
    rcases c.pen.heading.offset_ne_zero with ho | ho
    · omega
    · omega

/-! ## The main statement -/

/-- **The place that is reported and the picture agree.** On a canvas that a valid setup can lead to,
the place of the pen is reported in decimal and lies within the extent, and at this place the picture
shows the content of the cell of the pen, or a space if it is empty. On canvases of the same size the
same place is reported exactly if the pens stand on the same cell. After a step, which leads to
another place unless it is blocked, the picture shows at the former place the glyph, a space or what
it showed before, as the mode of the pen says, and at every other place what it showed before. -/
theorem place_in_picture (hs : s.Valid) (h : Reachable s c) :
    ∃ x y, c.coord = (x, y) ∧
      (x < s.extent.cols ∧ y < s.extent.rows ∧
        c.placeReport = "(" ++ toString x ++ "," ++ toString y ++ ")\r\n" ∧
        bodyChar? c.picture x y = some ((c.sheet.get? c.pen.cell).getD ' ')) ∧
      (∀ t d, t.Valid → Reachable t d → t.extent = s.extent →
        (c.placeReport = d.placeReport ↔ c.pen.cell = d.pen.cell)) ∧
      (c.step.2 = true → c.stepped.placeReport ≠ c.placeReport) ∧
      (c.pen.mode = .draw → bodyChar? c.stepped.picture x y = some s.glyph) ∧
      (c.pen.mode = .eraser → bodyChar? c.stepped.picture x y = some ' ') ∧
      (c.pen.mode = .hover → bodyChar? c.stepped.picture x y = bodyChar? c.picture x y) ∧
      ∀ x' < s.extent.cols, ∀ y' < s.extent.rows, (x', y') ≠ (x, y) →
        bodyChar? c.stepped.picture x' y' = bodyChar? c.picture x' y' := by
  have hc := h.sound hs
  have hin := hc.pen_inside
  have hbefore := fun x y => hc.bodyChar?_picture (x := x) (y := y)
  have hafter := fun x y => hc.stepped.bodyChar?_picture (x := x) (y := y)
  obtain ⟨hx, hy⟩ := coord_lt hin
  have hcell := cellAt_coord hin
  have hreport := c.placeReport_eq
  rcases hcoord : c.coord with ⟨x, y⟩
  rw [hcoord, hc.extent_eq] at hx hy hcell
  rw [hcoord] at hreport
  have hown : bodyChar? c.stepped.picture x y =
      some ((c.pen.mode.leaves s.glyph (c.sheet.get? c.pen.cell)).getD ' ') := by
    rw [hafter x y hx hy, hcell, shown_stepped, if_pos rfl, hc.setup_eq]
  refine ⟨x, y, rfl, ⟨hx, hy, hreport, ?_⟩, ?_, ?_, ?_, ?_, ?_, ?_⟩
  · rw [hbefore x y hx hy, hcell, shown]
  · intro t d ht hd hsize
    have hd := hd.sound ht
    have hextent : c.extent = d.extent := by rw [hc.extent_eq, hd.extent_eq, hsize]
    rw [placeReport_inj, coord_eq_iff hin hd.pen_inside hextent]
  · intro hmoved
    have hextent : c.stepped.extent = c.extent := congrArg Setup.extent c.stepped_setup
    rw [Ne, placeReport_inj, coord_eq_iff hc.stepped.pen_inside hin hextent]
    exact cell_stepped_ne hmoved
  · intro hmode
    rw [hown, hmode]
    rfl
  · intro hmode
    rw [hown, hmode]
    rfl
  · intro hmode
    rw [hown, hmode, hbefore x y hx hy, hcell, shown]
    rfl
  · intro x' hx' y' hy' hne
    have hother : c.pen.cell ≠ s.extent.cellAt (x', y') := by
      rw [← hcell, Ne, cellAt_inj hy hy']
      exact Ne.symm hne
    rw [hafter x' y' hx' hy', hbefore x' y' hx' hy', shown_stepped, if_neg hother]

/-- On a canvas of three columns and two rows, a step that erases one of two glyphs. -/
theorem place_in_picture_erasing :
    let s : Setup := ⟨⟨3, 2⟩, '*', ⟨0, 0⟩⟩
    let c := (blank s).obeyAll [.right 2, .steps 2, .left 4, .steps 1, .erase]
    s.Valid ∧ Reachable s c ∧ c.placeReport = "(1,1)\r\n" ∧ c.step.2 = true ∧
      bodyChar? c.picture 1 1 = some '*' ∧ bodyChar? c.stepped.picture 1 1 = some ' ' ∧
      bodyChar? c.stepped.picture 0 1 = bodyChar? c.picture 0 1 ∧
      c.stepped.placeReport ≠ c.placeReport := by
  intro s c
  have hs : s.Valid := by decide
  have h : Reachable s c := Reachable.blank.obeyAll _
  obtain ⟨x, y, hcoord, ⟨-, -, hreport, hshown⟩, -, hmoved, -, heraser, -, hothers⟩ :=
    place_in_picture hs h
  have hplace : c.coord = (1, 1) := by decide +kernel
  obtain ⟨rfl, rfl⟩ := Prod.mk.inj (hcoord.symm.trans hplace)
  have hcell : c.sheet.get? c.pen.cell = some '*' := by decide +kernel
  have hstep : c.step.2 = true := by decide +kernel
  rw [hcell] at hshown
  exact ⟨hs, h, hreport, hstep, hshown, heraser (by decide +kernel),
    hothers 0 (by decide) 1 (by decide) (by decide), hmoved hstep⟩

end Canvas

end Plotter
