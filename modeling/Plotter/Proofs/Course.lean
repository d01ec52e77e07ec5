import Mathlib.Algebra.Order.Ring.Int
import Mathlib.Data.Int.LeastGreatest
import Plotter.Proofs.Stroke

/-!
# The course of a stroke

Where a stroke ends and which cells it marks, told without its steps. The course of a pen is the
line of points ahead of it, over the integers and past every edge (`Canvas.course`); of these the
extent holds the ones up to a last one, at distance `d`. A stroke of `n` steps goes as far along its
course as it was asked to, but not beyond that point, and marks the points that it leaves
(`Canvas.steps_follows`).

A blocked step marks the cell on which the pen stays. So where the edge is met, one more cell is
marked than is left, and where it is not, the cell on which the stroke ends has not been marked.
The statement for a whole stroke is by induction on its steps: one that moves takes the pen to the
next point of its course, from which the rest of the stroke follows the rest of that course
(`Canvas.Follows.moved`), and one that is blocked is the last (`Canvas.follows_of_blocked`).

If no step of a stroke is blocked, the extent spans the point of the course at which it ends
(`Canvas.spans_course_of_moves`), and then the steps are made on the points of the course, one after
the other (`Canvas.points_stations_of_spans`).
-/

namespace Plotter

/-! ## Points in a line -/

/-- A cell as a point of the plane. -/
def Cell.point (c : Cell) : Int × Int := (c.col, c.row)

/-- The point at a distance of `k` offsets from a cell. -/
def Cell.along (c : Cell) (o : Offset) (k : Int) : Int × Int :=
  (c.col + k * o.col, c.row + k * o.row)

theorem Cell.point_inj {c d : Cell} : c.point = d.point ↔ c = d := by
  constructor
  · intro h
    obtain ⟨hcol, hrow⟩ := Prod.mk.inj h
    cases c
    cases d
    congr 1
    · exact Int.ofNat_inj.1 hcol
    · exact Int.ofNat_inj.1 hrow
  · rintro rfl
    rfl

@[simp] theorem Cell.along_zero (c : Cell) (o : Offset) : c.along o 0 = c.point := by
  simp [along, point]

/-- Every heading leads across columns or across rows. -/
theorem Heading.offset_ne_zero : ∀ h : Heading, h.offset.col ≠ 0 ∨ h.offset.row ≠ 0 := by
  decide

/-- No two points of a line are the same. -/
theorem Cell.along_inj {c : Cell} {h : Heading} {i k : Int} :
    c.along h.offset i = c.along h.offset k ↔ i = k := by
  constructor
  · intro heq
    obtain ⟨hcol, hrow⟩ := Prod.mk.inj heq
    rcases h.offset_ne_zero with ho | ho
    · exact mul_right_cancel₀ ho (add_left_cancel hcol)
    · exact mul_right_cancel₀ ho (add_left_cancel hrow)
  · rintro rfl
    rfl

/-- From the next cell of a line, all points of it are one offset nearer. -/
theorem Cell.along_of_next {c d : Cell} {o : Offset} (h : d.point = c.along o 1) (k : Int) :
    d.along o k = c.along o (k + 1) := by
  obtain ⟨hcol, hrow⟩ := Prod.mk.inj h
  unfold along
  rw [hcol, hrow, one_mul, one_mul, add_mul, add_mul, one_mul, one_mul]
  congr 1
  · omega
  · omega

/-- A coordinate that goes from one place of an axis to another stays on the axis in between. -/
theorem axis_of_le {x d size i k : Int} (hx : 0 ≤ x ∧ x < size)
    (hk : 0 ≤ x + k * d ∧ x + k * d < size) (hi : 0 ≤ i) (hik : i ≤ k) :
    0 ≤ x + i * d ∧ x + i * d < size := by
  rcases le_total 0 d with hd | hd
  · have hlow : 0 ≤ i * d := mul_nonneg hi hd
    have hhigh : i * d ≤ k * d := mul_le_mul_of_nonneg_right hik hd
    omega
  · have hlow : k * d ≤ i * d := mul_le_mul_of_nonpos_right hik hd
    have hhigh : i * d ≤ 0 := mul_nonpos_of_nonneg_of_nonpos hi hd
    omega

/-- A coordinate that moves leaves its axis after no more steps than the axis is long. -/
theorem lt_of_axis {x d size k : Int} (hd : d ≠ 0) (hx : 0 ≤ x ∧ x < size)
    (hk : 0 ≤ x + k * d ∧ x + k * d < size) : k < size := by
  by_contra hlong
  have hk0 : 0 ≤ k := by omega
  rcases lt_or_gt_of_ne hd with hd | hd
  · have hfar : k * d ≤ k * -1 := mul_le_mul_of_nonneg_left (by omega) hk0
    omega
  · have hfar : k * 1 ≤ k * d := mul_le_mul_of_nonneg_left (by omega) hk0
    omega

namespace Extent

/-- A point of the plane lies within an extent. -/
def Spans (e : Extent) (p : Int × Int) : Prop := (0 ≤ p.1 ∧ p.1 < e.cols) ∧ 0 ≤ p.2 ∧ p.2 < e.rows

/-- The numbers of columns and of rows are words. -/
def OfWords (e : Extent) : Prop := e.cols < wordSize ∧ e.rows < wordSize

instance (e : Extent) : Decidable e.OfWords :=
  inferInstanceAs (Decidable (e.cols < wordSize ∧ e.rows < wordSize))

variable {e : Extent} {c d : Cell} {o : Offset}

theorem spans_point : e.Spans c.point ↔ e.Holds c := by
  unfold Spans Holds Cell.point
  omega

/-- The points that an extent spans are the cells that it holds. -/
theorem exists_point_of_spans {p : Int × Int} (h : e.Spans p) :
    ∃ c : Cell, c.point = p ∧ e.Holds c := by
  obtain ⟨⟨hcol, hcols⟩, hrow, hrows⟩ := h
  refine ⟨⟨p.1.toNat, p.2.toNat⟩, ?_, ?_⟩
  · unfold Cell.point
    rw [Int.toNat_of_nonneg hcol, Int.toNat_of_nonneg hrow]
  · unfold Holds
    dsimp only
    omega

/-- An extent spans all points between two that it spans. -/
theorem spans_along_of_le {i k : Int} (hc : e.Holds c) (hk : e.Spans (c.along o k)) (hi : 0 ≤ i)
    (hik : i ≤ k) : e.Spans (c.along o i) := by
  obtain ⟨hcol, hrow⟩ := spans_point.2 hc
  exact ⟨axis_of_le hcol hk.1 hi hik, axis_of_le hrow hk.2 hi hik⟩

/-- There is a last point in a direction that an extent spans. -/
theorem exists_isGreatest (hc : e.Holds c) (h : Heading) :
    ∃ d : Int, IsGreatest {k : Int | e.Spans (c.along h.offset k)} d := by
  obtain ⟨hcol, hrow⟩ := spans_point.2 hc
  have hbound : ∀ k, e.Spans (c.along h.offset k) → k ≤ e.cols + e.rows := by
    intro k hk
    rcases h.offset_ne_zero with ho | ho
    · have := lt_of_axis ho hcol hk.1
      omega
    · have := lt_of_axis ho hrow hk.2
      omega
  have hstart : e.Spans (c.along h.offset 0) := by
    rw [Cell.along_zero]
    exact spans_point.2 hc
  obtain ⟨d, hd, hgreatest⟩ := Int.exists_greatest_of_bdd ⟨_, hbound⟩ ⟨0, hstart⟩
  exact ⟨d, hd, hgreatest⟩

/-- The cell ahead is the next point of the line, if the extent spans it. No sum of coordinates that
stay within the extent leaves the words. -/
theorem ahead?_eq_some_iff_point (he : e.OfWords) {h : Heading} :
    e.ahead? c h = some d ↔ e.Holds d ∧ d.point = c.along h.offset 1 := by
  rw [ahead?_eq_some_iff, Cell.neighbour?_eq_some_iff]
  unfold OfWords at he
  unfold Holds Cell.point Cell.along
  rw [Prod.mk.injEq, one_mul, one_mul]
  omega

end Extent

namespace Canvas

/-! ## The course of a pen -/

/-- The point that lies `k` steps ahead of the pen, whatever the extent. -/
def course (c : Canvas) (k : Int) : Int × Int := c.pen.cell.along c.pen.heading.offset k

/-- The last point of the course that the extent spans lies at distance `d`. -/
def EdgeAt (c : Canvas) (d : Int) : Prop := IsGreatest {k : Int | c.extent.Spans (c.course k)} d

/-- A cell is one of the first `k` points of the course. -/
def Passes (c : Canvas) (k : Int) (e : Cell) : Prop := ∃ i, (0 ≤ i ∧ i < k) ∧ e.point = c.course i

variable {c : Canvas} {d : Cell} {k : Int}

@[simp] theorem course_zero (c : Canvas) : c.course 0 = c.pen.cell.point := Cell.along_zero _ _

/-- From the cell ahead, the pen has the rest of its course before it. -/
theorem course_moved (h : d.point = c.course 1) (k : Int) :
    (c.mark.moved d).course k = c.course (k + 1) := Cell.along_of_next h k

/-- The course up to the point before the first is empty. -/
theorem not_passes_zero (c : Canvas) (e : Cell) : ¬ c.Passes 0 e := by
  rintro ⟨i, hi, -⟩
  omega

/-- The course begins with the cell of the pen. -/
theorem passes_one {e : Cell} : c.Passes 1 e ↔ c.pen.cell = e := by
  constructor
  · rintro ⟨i, hi, he⟩
    obtain rfl : i = 0 := by omega
    rw [course_zero] at he
    exact (Cell.point_inj.1 he).symm
  · rintro rfl
    exact ⟨0, by omega, by rw [course_zero]⟩

/-- Behind the cell of the pen, the course is that of a pen which has moved on. -/
theorem passes_succ (h : d.point = c.course 1) (hk : 0 ≤ k) {e : Cell} :
    c.Passes (k + 1) e ↔ c.pen.cell = e ∨ (c.mark.moved d).Passes k e := by
  constructor
  · rintro ⟨i, hi, he⟩
    by_cases h0 : i = 0
    · left
      exact passes_one.1 ⟨i, by omega, he⟩
    · right
      refine ⟨i - 1, by omega, ?_⟩
      rw [course_moved h, he, sub_add_cancel]
  · rintro (rfl | ⟨i, hi, he⟩)
    · exact ⟨0, by omega, by rw [course_zero]⟩
    · exact ⟨i + 1, by omega, by rw [he, course_moved h]⟩

/-- A pen that has moved on has one point less of its course before it. -/
theorem EdgeAt.moved (h : d.point = c.course 1) (hk : c.EdgeAt (k + 1)) :
    (c.mark.moved d).EdgeAt k := by
  obtain ⟨hspans, hgreatest⟩ := hk
  refine ⟨?_, ?_⟩
  · show c.extent.Spans ((c.mark.moved d).course k)
    rw [course_moved h]
    exact hspans
  · intro i hi
    have hi' : c.extent.Spans (c.course (i + 1)) := by
      rw [← course_moved h]
      exact hi
    have := hgreatest hi'
    omega

/-- A pen that stands at the edge is blocked. -/
theorem EdgeAt.blocked (he : c.extent.OfWords) (h : c.EdgeAt 0) : c.pen.ahead? c.extent = none := by
  rw [Option.eq_none_iff_forall_ne_some]
  intro d hd
  obtain ⟨hholds, hpoint⟩ := (Extent.ahead?_eq_some_iff_point he).1 hd
  have hspans : c.extent.Spans (c.course 1) := by
    show c.extent.Spans (c.pen.cell.along c.pen.heading.offset 1)
    rw [← hpoint]
    exact Extent.spans_point.2 hholds
  have := h.2 hspans
  omega

/-- A pen whose next point the extent spans has the cell at that point ahead. -/
theorem exists_ahead_of_spans (he : c.extent.OfWords) (h : c.extent.Spans (c.course 1)) :
    ∃ d, c.pen.ahead? c.extent = some d ∧ d.point = c.course 1 := by
  obtain ⟨d, hpoint, hholds⟩ := Extent.exists_point_of_spans h
  exact ⟨d, (Extent.ahead?_eq_some_iff_point he).2 ⟨hholds, hpoint⟩, hpoint⟩

/-- A pen that does not stand at the edge has the next point of its course ahead. -/
theorem EdgeAt.ahead (hc : c.Inside) (he : c.extent.OfWords) (hk : 0 < k) (h : c.EdgeAt k) :
    ∃ d, c.pen.ahead? c.extent = some d ∧ d.point = c.course 1 :=
  exists_ahead_of_spans he (Extent.spans_along_of_le hc h.1 (by omega) (by omega))

/-! ## Strokes that are not blocked -/

/-- A stroke whose last point the extent spans is made on the points of its course, one after the
other, and ends on that last one. -/
theorem points_stations_of_spans (hc : c.Inside) (he : c.extent.OfWords) {n : Nat}
    (hn : c.extent.Spans (c.course n)) :
    (stations n c).map (·.pen.cell.point) = (List.range n).map (fun i : Nat => c.course i) ∧
      (walk n c).pen.cell.point = c.course n := by
  induction n generalizing c with
  | zero => exact ⟨rfl, (course_zero c).symm⟩
  | succ n ih =>
    -- the first step leads to a point between both ends, and the rest of the course begins there
    have hnext : c.extent.Spans (c.course 1) :=
      Extent.spans_along_of_le hc hn (by omega) (by omega)
    obtain ⟨d, hahead, hpoint⟩ := exists_ahead_of_spans he hnext
    have hrest : (c.mark.moved d).extent.Spans ((c.mark.moved d).course n) := by
      rw [course_moved hpoint]
      exact hn
    have hin : (c.mark.moved d).Inside := Extent.holds_of_ahead? hahead
    obtain ⟨hstations, hend⟩ := ih hin he hrest
    rw [stations_succ_of_ahead hahead, walk_succ_of_ahead hahead, List.range_succ_eq_map,
      List.map_cons, List.map_cons, List.map_map, hstations, hend]
    refine ⟨?_, course_moved hpoint n⟩
    congr 1
    · exact (course_zero c).symm
    · apply List.map_congr_left
      intro i _
      exact course_moved hpoint i

/-- A stroke of which no step is blocked ends within the extent. -/
theorem spans_course_of_moves (hc : c.Inside) (he : c.extent.OfWords) {n : Nat}
    (hn : ∀ b ∈ stations n c, b.step.2 = true) : c.extent.Spans (c.course n) := by
  induction n generalizing c with
  | zero =>
    rw [Nat.cast_zero, course_zero]
    exact Extent.spans_point.2 hc
  | succ n ih =>
    rcases ha : c.pen.ahead? c.extent with _ | d
    · rw [stations_succ_of_blocked ha] at hn
      have hmoved := hn c (List.mem_singleton_self c)
      rw [step_of_blocked ha] at hmoved
      cases hmoved
    · rw [stations_succ_of_ahead ha] at hn
      obtain ⟨hholds, hpoint⟩ := (Extent.ahead?_eq_some_iff_point he).1 ha
      have hrest := ih (c := c.mark.moved d) hholds he (List.forall_mem_cons.1 hn).2
      rwa [course_moved hpoint] at hrest

/-! ## What follows the course -/

/-- The canvas `c'` is what comes of `c` when the pen has gone `m` steps along its course and has
marked the first `k` points of it. -/
structure Follows (c : Canvas) (m k : Int) (c' : Canvas) : Prop where
  setup : c'.setup = c.setup
  heading : c'.pen.heading = c.pen.heading
  mode : c'.pen.mode = c.pen.mode
  /-- The pen stands at the end of its way. -/
  point : c'.pen.cell.point = c.course m
  /-- The points passed have been marked. -/
  marked : ∀ e, c.Passes k e →
    c'.sheet.get? e = c.pen.mode.leaves c.setup.glyph (c.sheet.get? e)
  /-- All other cells are as they were. -/
  kept : ∀ e, ¬ c.Passes k e → c'.sheet.get? e = c.sheet.get? e

/-- A stroke of no steps stays where it is. -/
theorem follows_refl (c : Canvas) : c.Follows 0 0 c where
  setup := rfl
  heading := rfl
  mode := rfl
  point := (course_zero c).symm
  marked e he := absurd he (c.not_passes_zero e)
  kept _ _ := rfl

theorem get?_mark_sheet (c : Canvas) (e : Cell) :
    c.mark.sheet.get? e =
      if c.pen.cell = e then c.pen.mode.leaves c.setup.glyph (c.sheet.get? e)
      else c.sheet.get? e :=
  Sheet.get?_mark _ _ _ _ _

/-- A blocked step marks one cell and goes nowhere. -/
theorem follows_of_blocked (c : Canvas) : c.Follows 0 1 c.mark where
  setup := rfl
  heading := rfl
  mode := rfl
  point := (course_zero c).symm
  marked e he := by rw [get?_mark_sheet, if_pos (passes_one.1 he)]
  kept e he := by rw [get?_mark_sheet, if_neg (mt passes_one.2 he)]

/-- What follows the course of a pen that has moved on follows the course of the pen. -/
theorem Follows.moved {m : Int} {c' : Canvas} (h : d.point = c.course 1) (hk : 0 ≤ k)
    (hf : (c.mark.moved d).Follows m k c') : c.Follows (m + 1) (k + 1) c' where
  setup := hf.setup
  heading := hf.heading
  mode := hf.mode
  point := by rw [hf.point, course_moved h]
  marked e he := by
    by_cases hrest : (c.mark.moved d).Passes k e
    · -- marking the cell of the pen first makes no difference to what a later mark leaves of it
      rw [hf.marked e hrest, moved_mode, moved_setup, moved_sheet, mark_pen, mark_setup,
        get?_mark_sheet]
      split
      · exact Mode.leaves_leaves _ _ _
      · rfl
    · have hcell : c.pen.cell = e := ((passes_succ h hk).1 he).resolve_right hrest
      rw [hf.kept e hrest, moved_sheet, get?_mark_sheet, if_pos hcell]
  kept e he := by
    rw [passes_succ h hk, not_or] at he
    rw [hf.kept e he.2, moved_sheet, get?_mark_sheet, if_neg he.1]

/-- A walk follows the course of its pen, and one of its steps is blocked exactly if it was to go
further than the extent does. -/
theorem follows_walk {d : Nat} (n : Nat) (hc : c.Inside) (he : c.extent.OfWords) (hd : c.EdgeAt d) :
    c.Follows (min n d : Nat) (min n (d + 1) : Nat) (walk n c) ∧
      ((∃ e ∈ stations n c, e.step.2 = false) ↔ d < n) := by
  induction n generalizing c d with
  | zero =>
    refine ⟨?_, ?_⟩
    · simpa using follows_refl c
    · simp
  | succ n ih =>
    cases d with
    | zero =>
      have hblocked := hd.blocked he
      rw [walk_succ_of_blocked hblocked, stations_succ_of_blocked hblocked]
      refine ⟨?_, ?_⟩
      · simpa using follows_of_blocked c
      · simp [step_of_blocked hblocked]
    | succ d =>
      obtain ⟨e, hahead, hpoint⟩ := hd.ahead hc he (by omega)
      have hin : (c.mark.moved e).Inside := Extent.holds_of_ahead? hahead
      obtain ⟨hfollows, hstations⟩ := ih hin he (EdgeAt.moved hpoint hd)
      rw [walk_succ_of_ahead hahead, stations_succ_of_ahead hahead]
      refine ⟨?_, ?_⟩
      · have hmoved := hfollows.moved hpoint (by omega)
        rw [Nat.succ_min_succ, Nat.succ_min_succ]
        exact_mod_cast hmoved
      · simp [step_of_ahead hahead, hstations]

/-- **Where a stroke ends and what it marks.** Let `d` be the largest distance at which the course
of a pen that stands within the extent is within it. After a stroke of `n` steps, of none if `n` is
negative, the pen stands at the lesser distance of `n` and `d`, with its heading and mode as they
were; the first `n` points of the course have been marked, but no more than `d + 1` of them, and no
other cell has changed. The cell on which the pen comes to stand is one of those marked exactly if
`d < n`, and this is so exactly if a step of the stroke was blocked. -/
theorem steps_follows (c : Canvas) (hc : c.Inside) (he : c.extent.OfWords) (n : Int) :
    ∃ d : Int, IsGreatest {k : Int | c.extent.Spans (c.course k)} d ∧
      c.Follows (min (max n 0) d) (min (max n 0) (d + 1)) (c.steps n) ∧
      (c.Passes (min (max n 0) (d + 1)) (c.steps n).pen.cell ↔ d < n) ∧
      ((∃ e ∈ stations n.toNat c, e.step.2 = false) ↔ d < n) := by
  obtain ⟨d, hd⟩ := Extent.exists_isGreatest hc c.pen.heading
  have hedge : c.EdgeAt d := hd
  have hstart : c.extent.Spans (c.course 0) := by
    rw [course_zero]
    exact Extent.spans_point.2 hc
  lift d to Nat using hedge.2 hstart
  obtain ⟨hfollows, hblocked⟩ := follows_walk n.toNat hc he hedge
  have hway : ((min n.toNat d : Nat) : Int) = min (max n 0) d := by omega
  have hmarks : ((min n.toNat (d + 1) : Nat) : Int) = min (max n 0) (d + 1) := by omega
  rw [hway, hmarks] at hfollows
  refine ⟨d, hd, hfollows, ?_, ?_⟩
  · constructor
    · rintro ⟨i, hi, hpoint⟩
      have hmeet : min (max n 0) (d : Int) = i :=
        Cell.along_inj.1 (hfollows.point.symm.trans hpoint)
      omega
    · intro hlong
      exact ⟨min (max n 0) d, by omega, hfollows.point⟩
  · rw [hblocked]
    omega

/-- The longest stroke of all to the north-east, on the canvas for which nothing is given, goes
fourteen steps and marks the cell in the last column. -/
theorem steps_follows_usual :
    let c := (blank .usual).turnRight 1
    c.Inside ∧ c.extent.OfWords ∧ (c.steps (2 ^ 63 - 1)).pen.cell = ⟨29, 28⟩ ∧
      (c.steps (2 ^ 63 - 1)).sheet.get? ⟨29, 28⟩ = some '*' ∧
      (c.steps (2 ^ 63 - 1)).sheet.get? ⟨14, 13⟩ = none := by
  intro c
  have hc : c.Inside := by decide
  have he : c.extent.OfWords := by decide
  obtain ⟨d, ⟨hspans, hgreatest⟩, hfollows, hlast, -⟩ := steps_follows c hc he (2 ^ 63 - 1)
  have hcourse : ∀ k, c.course k = (15 + k, 14 + k) := by
    intro k
    show ((15 : Int) + k * 1, (14 : Int) + k * 1) = (15 + k, 14 + k)
    rw [mul_one]
  have hwithin : ∀ k, c.extent.Spans (c.course k) ↔ -14 ≤ k ∧ k ≤ 14 := by
    intro k
    rw [hcourse]
    show ((0 : Int) ≤ 15 + k ∧ 15 + k < 30) ∧ 0 ≤ 14 + k ∧ 14 + k < 30 ↔ _
    omega
  obtain rfl : d = 14 := by
    have hle : d ≤ 14 := ((hwithin d).1 hspans).2
    have hge : 14 ≤ d := hgreatest ((hwithin 14).2 (by decide))
    omega
  have hcell : (c.steps (2 ^ 63 - 1)).pen.cell = ⟨29, 28⟩ := by
    apply Cell.point_inj.1
    rw [hfollows.point, hcourse]
    rfl
  have hmarked := hfollows.marked _ (hlast.2 (by decide))
  rw [hcell] at hmarked
  refine ⟨hc, he, hcell, hmarked, hfollows.kept _ ?_⟩
  rintro ⟨i, hi, hpoint⟩
  rw [hcourse] at hpoint
  obtain ⟨hcol, -⟩ := Prod.mk.inj hpoint
  dsimp only at hcol
  omega

end Canvas

end Plotter
