import Plotter.Proofs.History
import Plotter.Proofs.Steering

/-!
# Trails

The trail of commands is the list of the cells on which their steps are made, in order
(`Canvas.trail`). It depends on nothing that is drawn: parallel canvases have the same trail under
the same commands (`Canvas.Parallel.trail_eq`).

Commands that steer the pen leave its mode as it is. So all marks that they make are of one mode, and
the sheet after them is told by the trail alone: each of its cells is left as the mode leaves it, and
every other cell is as it was (`Canvas.get?_obeyAll_of_steers`). How often the trail crosses itself
or runs into an edge makes no difference, since what a mode has left of a cell it leaves again.

From this it follows what becomes of a drawing that is erased by the same commands
(`Canvas.erased_along_trail`): not what was there before, but that without the cells of the trail.
-/

namespace Plotter

/-- The cell that a deed marks, if it marks one. -/
def Deed.cell? : Deed → Option Cell
  | mark c _ => some c
  | clear => none

/-- After marks in one mode, each of the cells marked is as the mode leaves it, and every other cell
is as it was. -/
theorem Sheet.get?_undergoAll_marks (glyph : Char) (m : Mode) (s : Sheet) (cells : List Cell)
    (e : Cell) :
    (s.undergoAll glyph (cells.map (Deed.mark · m))).get? e =
      if e ∈ cells then m.leaves glyph (s.get? e) else s.get? e := by
  induction cells generalizing s with
  | nil => simp
  | cons d cells ih =>
    rw [List.map_cons, undergoAll_cons, undergo, ih, get?_mark]
    by_cases hd : d = e
    · -- a cell that is marked again is left as it is
      subst hd
      simp
    · simp [hd, Ne.symm hd]

namespace Canvas

/-! ## The cells of a stroke -/

/-- The cells on which the steps of a stroke are made, in order. -/
def strokeCells (c : Canvas) (n : Int) : List Cell := (stations n.toNat c).map (·.pen.cell)

/-- The mode is the same for all steps of a stroke. -/
theorem mode_of_mem_stations {n : Nat} {c d : Canvas} (h : d ∈ stations n c) :
    d.pen.mode = c.pen.mode := by
  induction n generalizing c with
  | zero => cases h
  | succ n ih =>
    rcases ha : c.pen.ahead? c.extent with _ | e
    · rw [stations_succ_of_blocked ha, List.mem_singleton] at h
      rw [h]
    · rw [stations_succ_of_ahead ha, List.mem_cons] at h
      rcases h with rfl | h
      · rfl
      · have hrest : d.pen.mode = (c.mark.moved e).pen.mode := ih h
        exact hrest

/-- A stroke does nothing but mark its cells in the mode of the pen. -/
theorem strokeDeeds_eq (c : Canvas) (n : Int) :
    c.strokeDeeds n = (c.strokeCells n).map (Deed.mark · c.pen.mode) := by
  rw [strokeDeeds, strokeCells, List.map_map]
  apply List.map_congr_left
  intro d hd
  rw [deed, mode_of_mem_stations hd]
  rfl

/-- Marks are made on the cells they name. -/
theorem filterMap_cell?_marks (m : Mode) (cells : List Cell) :
    (cells.map (Deed.mark · m)).filterMap Deed.cell? = cells := by
  rw [List.filterMap_map]
  exact List.filterMap_some

variable {c d : Canvas}

/-- Parallel pens make the steps of a stroke on the same cells. -/
theorem Parallel.cells_stations (h : c.Parallel d) (n : Nat) :
    (stations n c).map (·.pen.cell) = (stations n d).map (·.pen.cell) := by
  induction n generalizing c d with
  | zero => rfl
  | succ n ih =>
    rcases hc : c.pen.ahead? c.extent with _ | e
    · have hd : d.pen.ahead? d.extent = none := h.ahead?_eq.symm.trans hc
      rw [stations_succ_of_blocked hc, stations_succ_of_blocked hd, List.map_singleton,
        List.map_singleton, h.cell]
    · have hd : d.pen.ahead? d.extent = some e := h.ahead?_eq.symm.trans hc
      rw [stations_succ_of_ahead hc, stations_succ_of_ahead hd, List.map_cons, List.map_cons,
        h.cell, ih (h.moved_mark e)]

theorem Parallel.strokeCells_eq (h : c.Parallel d) (n : Int) :
    c.strokeCells n = d.strokeCells n :=
  h.cells_stations n.toNat

/-! ## The trail of commands -/

/-- The cells on which the steps of a command are made, in order. -/
def cellsUnder (c : Canvas) (k : Command) : List Cell := (c.deeds k).filterMap Deed.cell?

/-- The cells on which the steps of commands are made, in order. -/
def trail (c : Canvas) (ks : List Command) : List Cell := (c.history ks).filterMap Deed.cell?

theorem trail_cons (c : Canvas) (k : Command) (ks : List Command) :
    c.trail (k :: ks) = c.cellsUnder k ++ (c.obey k).trail ks :=
  List.filterMap_append

/-- The example is made on the cells of its four sides. -/
theorem cellsUnder_test (c : Canvas) :
    c.cellsUnder .test = c.corners.flatMap (·.strokeCells sideSteps) := by
  simp only [cellsUnder, deeds, corners, List.flatMap_cons, List.flatMap_nil, List.append_nil,
    List.filterMap_append, strokeDeeds_eq, filterMap_cell?_marks]

/-- Parallel pens make the steps of a command on the same cells. -/
theorem Parallel.cellsUnder_eq (h : c.Parallel d) (k : Command) :
    c.cellsUnder k = d.cellsUnder k := by
  cases k with
  | steps n =>
    simp only [cellsUnder, deeds, strokeDeeds_eq, filterMap_cell?_marks, h.strokeCells_eq]
  | test =>
    simp only [cellsUnder_test, corners, List.flatMap_cons, List.flatMap_nil, h.strokeCells_eq,
      h.side.strokeCells_eq, h.side.side.strokeCells_eq, h.side.side.side.strokeCells_eq]
  | _ => rfl

/-- **A trail does not depend on what is drawn.** Parallel canvases have the same trail. -/
theorem Parallel.trail_eq (h : c.Parallel d) (ks : List Command) : c.trail ks = d.trail ks := by
  induction ks generalizing c d with
  | nil => rfl
  | cons k ks ih => rw [trail_cons, trail_cons, h.cellsUnder_eq, ih (h.obey k)]

/-! ## What is left along a trail -/

theorem side_mode (c : Canvas) : c.side.pen.mode = c.pen.mode := walk_mode _ c

/-- A command that steers leaves the mode of the pen. -/
theorem mode_obey_of_steers {k : Command} (hk : k.steers = true) (c : Canvas) :
    (c.obey k).pen.mode = c.pen.mode := by
  cases k with
  | steps n => exact walk_mode _ c
  | test => simp only [obey, square, side_mode]
  | left n => rfl
  | right n => rfl
  | coord => rfl
  | quit => rfl
  | _ => exact absurd hk Bool.noConfusion

/-- A command that steers does nothing but mark its cells in the mode of the pen. -/
theorem deeds_of_steers {k : Command} (hk : k.steers = true) (c : Canvas) :
    c.deeds k = (c.cellsUnder k).map (Deed.mark · c.pen.mode) := by
  cases k with
  | steps n => simp only [cellsUnder, deeds, strokeDeeds_eq, filterMap_cell?_marks]
  | test =>
    simp only [cellsUnder_test, deeds, corners, List.flatMap_cons, List.flatMap_nil,
      List.append_nil, List.map_append, strokeDeeds_eq, side_mode]
  | left n => rfl
  | right n => rfl
  | coord => rfl
  | quit => rfl
  | _ => exact absurd hk Bool.noConfusion

/-- Commands that steer do nothing but mark the cells of their trail in the mode of the pen. -/
theorem history_of_steers {ks : List Command} (hks : ∀ k ∈ ks, k.steers = true) (c : Canvas) :
    c.history ks = (c.trail ks).map (Deed.mark · c.pen.mode) := by
  induction ks generalizing c with
  | nil => rfl
  | cons k ks ih =>
    obtain ⟨hk, hrest⟩ := List.forall_mem_cons.1 hks
    rw [history, trail_cons, List.map_append, deeds_of_steers hk, ih hrest,
      mode_obey_of_steers hk]

/-- **What commands that steer leave behind.** After them, each cell of their trail is as the mode of
the pen leaves it, and every other cell is as it was. -/
theorem get?_obeyAll_of_steers {ks : List Command} (hks : ∀ k ∈ ks, k.steers = true) (c : Canvas)
    (e : Cell) :
    (c.obeyAll ks).sheet.get? e =
      if e ∈ c.trail ks then c.pen.mode.leaves c.setup.glyph (c.sheet.get? e)
      else c.sheet.get? e := by
  rw [obeyAll_sheet, history_of_steers hks, Sheet.get?_undergoAll_marks]

/-! ## Drawing and erasing along one trail -/

/-- The canvas with its pen put back to where another one was. -/
def withPen (c : Canvas) (p : Pen) : Canvas := { c with pen := p }

theorem parallel_setMode (c : Canvas) (m : Mode) : (c.setMode m).Parallel c := ⟨rfl, rfl, rfl⟩

theorem obeyAll_setup (c : Canvas) (ks : List Command) : (c.obeyAll ks).setup = c.setup := by
  induction ks generalizing c with
  | nil => rfl
  | cons k ks ih => rw [obeyAll_cons, ih, obey_setup]

/-- A canvas with the pen of another one of the same setup is parallel to that one. -/
theorem parallel_withPen (h : d.setup = c.setup) : (d.withPen c.pen).Parallel c :=
  ⟨congrArg Setup.extent h, rfl, rfl⟩

/-- **A drawing that is erased by the same commands.** Let commands that steer be obeyed in drawing
mode, then the pen be put back with the heading it had, and the same commands be obeyed in erasing
mode. Both times, and in every mode, their trail is the same. The sheet is then what it was before
but for the cells of the trail, all of which are empty, and it is the same as if the commands had
been obeyed in erasing mode alone. So it is the sheet from before exactly if the trail held nothing
then. -/
theorem erased_along_trail (c : Canvas) {ks : List Command} (hks : ∀ k ∈ ks, k.steers = true) :
    let drawn := (c.setMode .draw).obeyAll ks
    let back := (drawn.withPen c.pen).setMode .eraser
    let erased := back.obeyAll ks
    (∀ e, drawn.sheet.get? e =
        if e ∈ c.trail ks then some c.setup.glyph else c.sheet.get? e) ∧
      (∀ e, erased.sheet.get? e = if e ∈ c.trail ks then none else c.sheet.get? e) ∧
      erased.sheet = ((c.setMode .eraser).obeyAll ks).sheet ∧
      (∀ m, (c.setMode m).trail ks = c.trail ks) ∧ back.trail ks = c.trail ks ∧
      (erased.sheet = c.sheet ↔ ∀ e ∈ c.trail ks, c.sheet.get? e = none) := by
  intro drawn back erased
  have hmodes : ∀ m, (c.setMode m).trail ks = c.trail ks := by
    intro m
    exact (parallel_setMode c m).trail_eq ks
  have hback : back.trail ks = c.trail ks := by
    have hpen : (drawn.withPen c.pen).Parallel c := parallel_withPen (obeyAll_setup _ ks)
    exact ((parallel_setMode _ .eraser).trans hpen).trail_eq ks
  have hdrawn : ∀ e, drawn.sheet.get? e =
      if e ∈ c.trail ks then some c.setup.glyph else c.sheet.get? e := by
    intro e
    have h := get?_obeyAll_of_steers hks (c.setMode .draw) e
    rwa [hmodes] at h
  have herased : ∀ e, erased.sheet.get? e =
      if e ∈ c.trail ks then none else c.sheet.get? e := by
    intro e
    have h := get?_obeyAll_of_steers hks back e
    have hsheet : back.sheet.get? e = drawn.sheet.get? e := rfl
    rw [hback, hsheet, hdrawn] at h
    rw [h]
    split <;> rfl
  have honce : ∀ e, ((c.setMode .eraser).obeyAll ks).sheet.get? e =
      if e ∈ c.trail ks then none else c.sheet.get? e := by
    intro e
    have h := get?_obeyAll_of_steers hks (c.setMode .eraser) e
    rwa [hmodes] at h
  refine ⟨hdrawn, herased, ?_, hmodes, hback, ?_⟩
  · apply Sheet.ext
    intro e
    rw [herased, honce]
  · constructor
    · intro h e he
      rw [← h, herased, if_pos he]
    · intro h
      apply Sheet.ext
      intro e
      rw [herased]
      split
      · next he => exact (h e he).symm
      · rfl

/-- A trail that crosses itself, runs into the upper edge and leads over the end of a line drawn
before: that end is lost, and the rest of the line is kept. -/
theorem erased_along_trail_crossing :
    let c := (blank .usual).obeyAll [.right 2, .steps 3, .left 4]
    let ks : List Command := [.steps 1, .right 2, .test, .steps (2 ^ 63 - 1)]
    let drawn := (c.setMode .draw).obeyAll ks
    let erased := ((drawn.withPen c.pen).setMode .eraser).obeyAll ks
    (∀ k ∈ ks, k.steers = true) ∧ ¬ (c.trail ks).Nodup ∧
      drawn.sheet.get? ⟨17, 29⟩ = some '*' ∧ erased.sheet.get? ⟨17, 29⟩ = none ∧
      c.sheet.get? ⟨17, 14⟩ = some '*' ∧ erased.sheet.get? ⟨17, 14⟩ = none ∧
      erased.sheet.get? ⟨16, 14⟩ = some '*' ∧ erased.sheet ≠ c.sheet := by
  intro c ks drawn erased
  have hks : ∀ k ∈ ks, k.steers = true := by decide
  obtain ⟨hdrawn, herased, -, -, -, hrestored⟩ := erased_along_trail c hks
  have htop : (⟨17, 29⟩ : Cell) ∈ c.trail ks := by decide +kernel
  have hend : (⟨17, 14⟩ : Cell) ∈ c.trail ks := by decide +kernel
  have hline : (⟨16, 14⟩ : Cell) ∉ c.trail ks := by decide +kernel
  have hbefore : c.sheet.get? ⟨17, 14⟩ = some '*' := by decide +kernel
  have hkept : c.sheet.get? ⟨16, 14⟩ = some '*' := by decide +kernel
  refine ⟨hks, by decide +kernel, ?_, ?_, hbefore, ?_, ?_, ?_⟩
  · exact (hdrawn _).trans (if_pos htop)
  · exact (herased _).trans (if_pos htop)
  · exact (herased _).trans (if_pos hend)
  · exact ((herased _).trans (if_neg hline)).trans hkept
  · intro hsame
    rw [hrestored.1 hsame _ hend] at hbefore
    cases hbefore

end Canvas

end Plotter
