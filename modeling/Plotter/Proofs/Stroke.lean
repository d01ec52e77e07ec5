import Mathlib.Algebra.Group.Int.Defs
import Mathlib.Data.Nat.SuccPred
import Mathlib.Logic.Function.Iterate
import Mathlib.Order.MinMax
import Plotter.Canvas

/-!
# Strokes, step by step

A stroke ends at its first blocked step. That this is not seen afterwards rests on two facts: a
blocked step does nothing but mark the cell of the pen (`Canvas.step_of_blocked`), and a cell marked
twice is a cell marked once (`Canvas.mark_mark`). So the canvas after a blocked step is a fixed point
of every further step, and a stroke ends where the same number of steps would end
(`Canvas.walk_eq_iterate`).

What is told of the steps themselves is noted down by the loop that makes them (`Canvas.trace`):
`Canvas.stations` are the canvases on which the steps are made, in order, and `Canvas.stepCount` is
how many there are. All notes follow from the stations (`Canvas.fst_trace`), and no notes change the
stroke (`Canvas.snd_trace`). Each step that is not blocked takes the pen nearer to the edge that it
faces (`room`), along each axis on which it moves at all, and this bounds the number of steps by the
extent alone.
-/

namespace Plotter

/-! ## What a mark leaves -/

/-- What a pen in mode `m` leaves of a cell that held `old`. -/
def Mode.leaves (m : Mode) (glyph : Char) (old : Option Char) : Option Char :=
  match m with
  | .draw => some glyph
  | .hover => old
  | .eraser => none

/-- What has been left by a mode is left by it again. -/
@[simp] theorem Mode.leaves_leaves (m : Mode) (glyph : Char) (old : Option Char) :
    m.leaves glyph (m.leaves glyph old) = m.leaves glyph old := by
  cases m <;> rfl

/-- A mark changes the one cell marked. -/
theorem Sheet.get?_mark (s : Sheet) (m : Mode) (c d : Cell) (glyph : Char) :
    (s.mark m c glyph).get? d = if c = d then m.leaves glyph (s.get? d) else s.get? d := by
  cases m with
  | draw => exact Sheet.get?_write s c d glyph
  | hover => exact (ite_self _).symm
  | eraser => exact Sheet.get?_wipe s c d

/-- A cell marked twice is a cell marked once. -/
@[simp] theorem Sheet.mark_mark (s : Sheet) (m : Mode) (c : Cell) (glyph : Char) :
    (s.mark m c glyph).mark m c glyph = s.mark m c glyph := by
  apply Sheet.ext
  intro d
  simp only [Sheet.get?_mark]
  split
  · exact m.leaves_leaves glyph (s.get? d)
  · rfl

namespace Canvas

@[simp] theorem mark_pen (c : Canvas) : c.mark.pen = c.pen := rfl

@[simp] theorem mark_setup (c : Canvas) : c.mark.setup = c.setup := rfl

/-- Marking the cell of the pen twice is marking it once. -/
@[simp] theorem mark_mark (c : Canvas) : c.mark.mark = c.mark := by
  simp [mark]

/-! ## One step -/

/-- The canvas with its pen put on another cell. -/
def moved (c : Canvas) (d : Cell) : Canvas := { c with pen := { c.pen with cell := d } }

@[simp] theorem moved_setup (c : Canvas) (d : Cell) : (c.moved d).setup = c.setup := rfl

@[simp] theorem moved_sheet (c : Canvas) (d : Cell) : (c.moved d).sheet = c.sheet := rfl

@[simp] theorem moved_cell (c : Canvas) (d : Cell) : (c.moved d).pen.cell = d := rfl

@[simp] theorem moved_heading (c : Canvas) (d : Cell) :
    (c.moved d).pen.heading = c.pen.heading := rfl

@[simp] theorem moved_mode (c : Canvas) (d : Cell) : (c.moved d).pen.mode = c.pen.mode := rfl

/-- A step with a cell ahead marks the cell of the pen and moves. -/
theorem step_of_ahead {c : Canvas} {d : Cell} (h : c.pen.ahead? c.extent = some d) :
    c.step = (c.mark.moved d, true) := by
  have ha : c.mark.advance? = some (c.mark.moved d) := by
    rw [advance?, mark_pen, extent, mark_setup, h]
    rfl
  simp only [step, ha]

/-- A blocked step marks the cell of the pen and does nothing else. -/
theorem step_of_blocked {c : Canvas} (h : c.pen.ahead? c.extent = none) :
    c.step = (c.mark, false) := by
  have ha : c.mark.advance? = none := by
    rw [advance?, mark_pen, extent, mark_setup, h]
    rfl
  simp only [step, ha]

/-- The canvas after one step, whether or not the pen moved. -/
def stepped (c : Canvas) : Canvas := c.step.1

theorem stepped_of_ahead {c : Canvas} {d : Cell} (h : c.pen.ahead? c.extent = some d) :
    c.stepped = c.mark.moved d := by
  rw [stepped, step_of_ahead h]

theorem stepped_of_blocked {c : Canvas} (h : c.pen.ahead? c.extent = none) :
    c.stepped = c.mark := by
  rw [stepped, step_of_blocked h]

/-- After a blocked step, further steps change nothing. -/
theorem iterate_stepped_of_blocked {c : Canvas} (h : c.pen.ahead? c.extent = none) (n : Nat) :
    stepped^[n] c.mark = c.mark := by
  have hfix : c.mark.stepped = c.mark := by
    have hb : c.mark.pen.ahead? c.mark.extent = none := h
    rw [stepped_of_blocked hb, mark_mark]
  exact Function.iterate_fixed hfix n

/-! ## The loop -/

section Loop

variable {α : Type} {note : α → Canvas → α} {c : Canvas}

theorem trace_succ_of_ahead {d : Cell} (h : c.pen.ahead? c.extent = some d) (n : Nat) (notes : α) :
    trace note (n + 1) notes c = trace note n (note notes c) (c.mark.moved d) := by
  simp only [trace, step_of_ahead h]

theorem trace_succ_of_blocked (h : c.pen.ahead? c.extent = none) (n : Nat) (notes : α) :
    trace note (n + 1) notes c = (note notes c, c.mark) := by
  simp only [trace, step_of_blocked h]

/-- The stroke is the same whatever is noted. -/
theorem snd_trace (note : α → Canvas → α) (n : Nat) (notes : α) (c : Canvas) :
    (trace note n notes c).2 = walk n c := by
  suffices h : ∀ {β : Type} (other : β → Canvas → β) (others : β),
      (trace note n notes c).2 = (trace other n others c).2 from h _ _
  intro β other others
  induction n generalizing notes others c with
  | zero => rfl
  | succ n ih =>
    rcases h : c.pen.ahead? c.extent with _ | d
    · rw [trace_succ_of_blocked h, trace_succ_of_blocked h]
    · rw [trace_succ_of_ahead h, trace_succ_of_ahead h, ih]

@[simp] theorem walk_zero (c : Canvas) : walk 0 c = c := rfl

theorem walk_succ_of_ahead {d : Cell} (h : c.pen.ahead? c.extent = some d) (n : Nat) :
    walk (n + 1) c = walk n (c.mark.moved d) := by
  rw [walk, trace_succ_of_ahead h, snd_trace]

theorem walk_succ_of_blocked (h : c.pen.ahead? c.extent = none) (n : Nat) :
    walk (n + 1) c = c.mark := by
  rw [walk, trace_succ_of_blocked h]

/-- The canvases on which the steps of a stroke are made, in order: one for every step up to the
first that is blocked, that one included. -/
def stations (n : Nat) (c : Canvas) : List Canvas :=
  (trace (fun seen d => seen ++ [d]) n [] c).1

theorem trace_append (n : Nat) (seen : List Canvas) (c : Canvas) :
    (trace (fun seen d => seen ++ [d]) n seen c).1 = seen ++ stations n c := by
  induction n generalizing seen c with
  | zero => exact (List.append_nil seen).symm
  | succ n ih =>
    rcases h : c.pen.ahead? c.extent with _ | d
    · rw [stations, trace_succ_of_blocked h, trace_succ_of_blocked h, List.nil_append]
    · rw [stations, trace_succ_of_ahead h, trace_succ_of_ahead h, ih, ih, List.nil_append,
        List.append_assoc]

@[simp] theorem stations_zero (c : Canvas) : stations 0 c = [] := rfl

theorem stations_succ_of_ahead {d : Cell} (h : c.pen.ahead? c.extent = some d) (n : Nat) :
    stations (n + 1) c = c :: stations n (c.mark.moved d) := by
  rw [stations, trace_succ_of_ahead h, trace_append]
  rfl

theorem stations_succ_of_blocked (h : c.pen.ahead? c.extent = none) (n : Nat) :
    stations (n + 1) c = [c] := by
  rw [stations, trace_succ_of_blocked h]
  rfl

/-- Whatever is noted follows from the stations. -/
theorem fst_trace (note : α → Canvas → α) (n : Nat) (notes : α) (c : Canvas) :
    (trace note n notes c).1 = (stations n c).foldl note notes := by
  induction n generalizing notes c with
  | zero => rfl
  | succ n ih =>
    rcases h : c.pen.ahead? c.extent with _ | d
    · rw [trace_succ_of_blocked h, stations_succ_of_blocked h, List.foldl_cons, List.foldl_nil]
    · rw [trace_succ_of_ahead h, stations_succ_of_ahead h, List.foldl_cons, ih]

end Loop

/-! ## A stroke as so many steps -/

/-- What neither a mark nor a move changes, no stroke changes. -/
theorem walk_unchanged {α : Type} {f : Canvas → α} (hmark : ∀ c, f c.mark = f c)
    (hmoved : ∀ c d, f (moved c d) = f c) (n : Nat) (c : Canvas) : f (walk n c) = f c := by
  induction n generalizing c with
  | zero => rfl
  | succ n ih =>
    rcases h : c.pen.ahead? c.extent with _ | d
    · rw [walk_succ_of_blocked h, hmark]
    · rw [walk_succ_of_ahead h, ih, hmoved, hmark]

theorem walk_setup (n : Nat) (c : Canvas) : (walk n c).setup = c.setup :=
  walk_unchanged (f := Canvas.setup) mark_setup moved_setup n c

theorem walk_heading (n : Nat) (c : Canvas) : (walk n c).pen.heading = c.pen.heading :=
  walk_unchanged (f := fun c => c.pen.heading) (fun _ => rfl) moved_heading n c

theorem walk_mode (n : Nat) (c : Canvas) : (walk n c).pen.mode = c.pen.mode :=
  walk_unchanged (f := fun c => c.pen.mode) (fun _ => rfl) moved_mode n c

/-- A stroke ends where as many steps end, none of which stops early. -/
theorem walk_eq_iterate (n : Nat) (c : Canvas) : walk n c = stepped^[n] c := by
  induction n generalizing c with
  | zero => rfl
  | succ n ih =>
    rw [Function.iterate_succ_apply]
    rcases h : c.pen.ahead? c.extent with _ | d
    · rw [walk_succ_of_blocked h, stepped_of_blocked h, iterate_stepped_of_blocked h]
    · rw [walk_succ_of_ahead h, stepped_of_ahead h, ih]

/-! ## The steps that a stroke makes -/

/-- The number of steps that a stroke of `n` steps makes before it ends. -/
def stepCount (c : Canvas) (n : Int) : Nat := (trace (fun made _ => made + 1) n.toNat 0 c).1

theorem stepCount_eq_length (c : Canvas) (n : Int) :
    c.stepCount n = (stations n.toNat c).length := by
  rw [stepCount, fst_trace, List.foldl_const]
  exact (Nat.succ_iterate 0 _).trans (Nat.zero_add _)

/-- A stroke is as many steps one after the other as it has stations. -/
theorem walk_eq_iterate_stations (n : Nat) (c : Canvas) :
    walk n c = stepped^[(stations n c).length] c := by
  induction n generalizing c with
  | zero => rfl
  | succ n ih =>
    rcases h : c.pen.ahead? c.extent with _ | d
    · rw [walk_succ_of_blocked h, stations_succ_of_blocked h, List.length_singleton,
        Function.iterate_one, stepped_of_blocked h]
    · rw [walk_succ_of_ahead h, stations_succ_of_ahead h, List.length_cons,
        Function.iterate_succ_apply, stepped_of_ahead h, ih]

end Canvas

/-! ## Room up to the edge -/

/-- The number of cells from a coordinate on, itself included, up to the edge that a movement by `d`
goes towards. -/
def room (size x : Nat) (d : Int) : Nat := if 0 < d then size - x else x + 1

theorem room_pos {size x : Nat} (hx : x < size) (d : Int) : 0 < room size x d := by
  unfold room
  split <;> omega

theorem room_le {size x : Nat} (hx : x < size) (d : Int) : room size x d ≤ size := by
  unfold room
  split <;> omega

/-- A movement along an axis leaves less room on it. -/
theorem room_lt_of_moved {size x y : Nat} {d : Int} (hd : d ≠ 0) (hx : x < size)
    (hy : (y : Int) = x + d) : room size y d < room size x d := by
  unfold room
  split <;> omega

/-- The largest number of cells of an extent that lie in a line in a direction. -/
def Extent.span (e : Extent) : Heading → Nat
  | 0 => e.rows
  | 1 => min e.cols e.rows
  | 2 => e.cols
  | 3 => min e.cols e.rows
  | 4 => e.rows
  | 5 => min e.cols e.rows
  | 6 => e.cols
  | 7 => min e.cols e.rows

/-- What is bounded by the columns where a direction leads along a row, and by the rows where it
leads along a column, is bounded by the span. -/
theorem Extent.le_span {e : Extent} {h : Heading} {k : Nat}
    (hcols : h.offset.col ≠ 0 → k ≤ e.cols) (hrows : h.offset.row ≠ 0 → k ≤ e.rows) :
    k ≤ e.span h := by
  match h with
  | 0 => exact hrows (by decide)
  | 1 => exact le_min (hcols (by decide)) (hrows (by decide))
  | 2 => exact hcols (by decide)
  | 3 => exact le_min (hcols (by decide)) (hrows (by decide))
  | 4 => exact hrows (by decide)
  | 5 => exact le_min (hcols (by decide)) (hrows (by decide))
  | 6 => exact hcols (by decide)
  | 7 => exact le_min (hcols (by decide)) (hrows (by decide))

namespace Canvas

/-- If every step that moves the pen makes a positive measure smaller, then the measure bounds the
number of steps of a stroke. -/
theorem length_stations_le {P : Canvas → Prop} {f : Canvas → Nat} (hpos : ∀ c, P c → 0 < f c)
    (hmove : ∀ c d, P c → c.pen.ahead? c.extent = some d →
      P (c.mark.moved d) ∧ f (c.mark.moved d) < f c)
    (n : Nat) {c : Canvas} (hc : P c) : (stations n c).length ≤ f c := by
  induction n generalizing c with
  | zero => exact Nat.zero_le _
  | succ n ih =>
    rcases h : c.pen.ahead? c.extent with _ | d
    · rw [stations_succ_of_blocked h]
      exact hpos c hc
    · obtain ⟨hd, hlt⟩ := hmove c d hc h
      rw [stations_succ_of_ahead h, List.length_cons]
      exact lt_of_le_of_lt (ih hd) hlt

/-- The cell ahead lies within the extent, at the offset of the heading. -/
theorem offset_of_ahead? {c : Canvas} {d : Cell} (h : c.pen.ahead? c.extent = some d) :
    (d.col : Int) = c.pen.cell.col + c.pen.heading.offset.col ∧
      (d.row : Int) = c.pen.cell.row + c.pen.heading.offset.row ∧ c.extent.Holds d := by
  obtain ⟨hn, hd⟩ := Extent.ahead?_eq_some_iff.1 h
  obtain ⟨⟨hcol, -⟩, hrow, -⟩ := Cell.neighbour?_eq_some_iff.1 hn
  exact ⟨hcol, hrow, hd⟩

/-- A stroke that leads across columns makes no more steps than there are columns. -/
theorem length_stations_le_cols {c : Canvas} (hc : c.Inside) (ho : c.pen.heading.offset.col ≠ 0)
    (n : Nat) : (stations n c).length ≤ c.extent.cols := by
  have hle : (stations n c).length ≤
      room c.extent.cols c.pen.cell.col c.pen.heading.offset.col := by
    refine length_stations_le
      (P := fun c => c.Inside ∧ c.pen.heading.offset.col ≠ 0)
      (f := fun c => room c.extent.cols c.pen.cell.col c.pen.heading.offset.col)
      ?_ ?_ n ⟨hc, ho⟩
    · rintro c ⟨hc, -⟩
      exact room_pos hc.1 _
    · rintro c d ⟨hc, ho⟩ h
      obtain ⟨hcol, -, hd⟩ := offset_of_ahead? h
      exact ⟨⟨hd, ho⟩, room_lt_of_moved ho hc.1 hcol⟩
  exact hle.trans (room_le hc.1 _)

/-- A stroke that leads across rows makes no more steps than there are rows. -/
theorem length_stations_le_rows {c : Canvas} (hc : c.Inside) (ho : c.pen.heading.offset.row ≠ 0)
    (n : Nat) : (stations n c).length ≤ c.extent.rows := by
  have hle : (stations n c).length ≤
      room c.extent.rows c.pen.cell.row c.pen.heading.offset.row := by
    refine length_stations_le
      (P := fun c => c.Inside ∧ c.pen.heading.offset.row ≠ 0)
      (f := fun c => room c.extent.rows c.pen.cell.row c.pen.heading.offset.row)
      ?_ ?_ n ⟨hc, ho⟩
    · rintro c ⟨hc, -⟩
      exact room_pos hc.2 _
    · rintro c d ⟨hc, ho⟩ h
      obtain ⟨-, hrow, hd⟩ := offset_of_ahead? h
      exact ⟨⟨hd, ho⟩, room_lt_of_moved ho hc.2 hrow⟩
  exact hle.trans (room_le hc.2 _)

/-- The number of steps that a stroke makes is bounded by the extent, however many are asked for. -/
theorem stepCount_le_span {c : Canvas} (hc : c.Inside) (n : Int) :
    c.stepCount n ≤ c.extent.span c.pen.heading := by
  rw [stepCount_eq_length]
  exact Extent.le_span (fun ho => length_stations_le_cols hc ho _)
    (fun ho => length_stations_le_rows hc ho _)

/-- **The early end of a stroke is not seen.** A stroke of `n` steps, of none if `n` is negative,
ends on the canvas on which as many steps end that never stop early. It makes at most as many of
them as cells of the extent can lie in a line in the direction of the pen. -/
theorem steps_eq_iterate_stepped (c : Canvas) (hc : c.Inside) (n : Int) :
    c.steps n = stepped^[(max n 0).toNat] c ∧
      c.steps n = stepped^[c.stepCount n] c ∧ c.stepCount n ≤ c.extent.span c.pen.heading := by
  have hn : (max n 0).toNat = n.toNat := by omega
  refine ⟨?_, ?_, stepCount_le_span hc n⟩
  · rw [hn, steps, walk_eq_iterate]
  · rw [steps, stepCount_eq_length]
    exact walk_eq_iterate_stations _ c

/-- The largest stroke that can be asked for, on a canvas for which nothing is given, makes at most
thirty steps. -/
theorem steps_eq_iterate_stepped_usual :
    (blank Setup.usual).Inside ∧
      (blank Setup.usual).steps (2 ^ 63 - 1) =
        stepped^[(max (2 ^ 63 - 1) 0 : Int).toNat] (blank Setup.usual) ∧
      (blank Setup.usual).stepCount (2 ^ 63 - 1) ≤ 30 := by
  have hin : (blank Setup.usual).Inside := by decide
  obtain ⟨hsteps, -, hcount⟩ := steps_eq_iterate_stepped (blank Setup.usual) hin (2 ^ 63 - 1)
  exact ⟨hin, hsteps, hcount⟩

end Canvas

end Plotter
