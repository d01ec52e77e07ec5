import Plotter.Proofs.Occupancy
import Plotter.Proofs.Script
import Plotter.Proofs.Stroke

/-!
# Reachable canvases

Which canvases a session can come to (`Canvas.Reachable`), and what holds of each of them
(`Canvas.Sound`): the pen stands within the extent, every glyph lies within the extent and is the one
of the setup, and the setup is the one from which the canvas was made.

Neither a sheet nor a pen looks at the extent. That nothing lies outside rests on every operation
alone: marks are left only where the pen stands, and the pen moves only to a cell that the extent
holds.
-/

namespace Plotter.Canvas

/-! ## Operations -/

/-- What can be done to a canvas, apart from looking at it. -/
inductive Operation
  /-- One step. -/
  | step
  /-- A stroke of so many steps. -/
  | steps (n : Int)
  /-- So many eighths of a turn counter-clockwise. -/
  | turnLeft (n : Int)
  /-- So many eighths of a turn clockwise. -/
  | turnRight (n : Int)
  /-- Another mode. -/
  | setMode (m : Mode)
  /-- The removal of every glyph. -/
  | clear
deriving DecidableEq, Repr

/-- The canvas after an operation. -/
def perform (c : Canvas) : Operation → Canvas
  | .step => c.stepped
  | .steps n => c.steps n
  | .turnLeft n => c.turnLeft n
  | .turnRight n => c.turnRight n
  | .setMode m => c.setMode m
  | .clear => c.clear

/-- The canvases that a setup can lead to, by operations, by single commands and by payloads of any
bytes, in any order. -/
inductive Reachable (s : Setup) : Canvas → Prop
  /-- The canvas from which all begins. -/
  | blank : Reachable s (blank s)
  /-- The canvas after one more operation. -/
  | perform {c : Canvas} (h : Reachable s c) (o : Operation) : Reachable s (c.perform o)
  /-- The canvas after one more command. -/
  | obey {c : Canvas} (h : Reachable s c) (k : Command) : Reachable s (c.obey k)
  /-- The canvas after one more payload. -/
  | process {c : Canvas} (h : Reachable s c) (payload : List UInt8) :
      Reachable s (c.process payload).canvas

/-- The canvas after more commands is reachable. -/
theorem Reachable.obeyAll {s : Setup} {c : Canvas} (h : Reachable s c) (ks : List Command) :
    Reachable s (c.obeyAll ks) := by
  induction ks generalizing c with
  | nil => exact h
  | cons k ks ih => exact ih (h.obey k)

/-! ## What holds of a canvas -/

/-- A canvas of the setup `s` on which nothing lies outside the extent. -/
structure Sound (s : Setup) (c : Canvas) : Prop where
  /-- The canvas is made from the setup. -/
  setup_eq : c.setup = s
  /-- The pen stands within the extent. -/
  inside : s.extent.Holds c.pen.cell
  /-- Every glyph lies within the extent and is the one of the setup. -/
  drawn : ∀ d glyph, c.sheet.get? d = some glyph → s.extent.Holds d ∧ glyph = s.glyph

variable {s : Setup} {c : Canvas}

theorem Sound.extent_eq (h : Sound s c) : c.extent = s.extent := congrArg Setup.extent h.setup_eq

theorem Sound.pen_inside (h : Sound s c) : c.Inside := by
  rw [Inside, h.extent_eq]
  exact h.inside

/-- A new canvas of a valid setup is sound. -/
theorem sound_blank (hs : s.Valid) : Sound s (blank s) where
  setup_eq := rfl
  inside := hs
  drawn d glyph h := by
    rw [blank, Sheet.get?_empty] at h
    cases h

/-- What leaves the setup, the sheet and the cell of the pen as they are keeps a canvas sound. -/
theorem Sound.of_eq {d : Canvas} (h : Sound s c) (hsetup : d.setup = c.setup)
    (hsheet : d.sheet = c.sheet) (hcell : d.pen.cell = c.pen.cell) : Sound s d where
  setup_eq := hsetup.trans h.setup_eq
  inside := hcell ▸ h.inside
  drawn := hsheet ▸ h.drawn

theorem Sound.turnRight (h : Sound s c) (n : Int) : Sound s (c.turnRight n) :=
  h.of_eq rfl rfl rfl

theorem Sound.turnLeft (h : Sound s c) (n : Int) : Sound s (c.turnLeft n) :=
  h.of_eq rfl rfl rfl

theorem Sound.setMode (h : Sound s c) (m : Mode) : Sound s (c.setMode m) :=
  h.of_eq rfl rfl rfl

theorem Sound.clear (h : Sound s c) : Sound s c.clear where
  setup_eq := h.setup_eq
  inside := h.inside
  drawn d glyph hd := by
    rw [Canvas.clear, Sheet.get?_empty] at hd
    cases hd

/-- The pen marks the cell it stands on, which the extent holds, with the glyph of the setup. -/
theorem Sound.mark (h : Sound s c) : Sound s c.mark where
  setup_eq := h.setup_eq
  inside := h.inside
  drawn d glyph hd := by
    rw [Canvas.mark, Sheet.get?_mark] at hd
    split at hd
    · next hcell =>
      subst hcell
      cases hm : c.pen.mode with
      | draw =>
        rw [hm, Mode.leaves, h.setup_eq] at hd
        exact ⟨h.inside, (Option.some.inj hd).symm⟩
      | hover =>
        rw [hm, Mode.leaves] at hd
        exact h.drawn _ glyph hd
      | eraser =>
        rw [hm, Mode.leaves] at hd
        cases hd
    · exact h.drawn d glyph hd

theorem Sound.moved {d : Cell} (h : Sound s c) (hd : s.extent.Holds d) : Sound s (c.moved d) where
  setup_eq := h.setup_eq
  inside := hd
  drawn := h.drawn

/-- A step keeps a canvas sound, since the pen moves only to a cell that the extent holds. -/
theorem Sound.stepped (h : Sound s c) : Sound s c.stepped := by
  rcases ha : c.pen.ahead? c.extent with _ | d
  · rw [stepped_of_blocked ha]
    exact h.mark
  · rw [stepped_of_ahead ha]
    have hd : s.extent.Holds d := by
      rw [← h.setup_eq]
      exact Extent.holds_of_ahead? ha
    exact h.mark.moved hd

theorem Sound.steps (h : Sound s c) (n : Int) : Sound s (c.steps n) := by
  rw [Canvas.steps, walk_eq_iterate]
  induction n.toNat generalizing c with
  | zero => exact h
  | succ n ih =>
    rw [Function.iterate_succ_apply]
    exact ih h.stepped

theorem Sound.side (h : Sound s c) : Sound s c.side := (h.steps _).turnRight _

theorem Sound.square (h : Sound s c) : Sound s c.square := h.side.side.side.side

/-- No operation makes a sound canvas unsound. -/
theorem Sound.perform (h : Sound s c) (o : Operation) : Sound s (c.perform o) := by
  cases o with
  | step => exact h.stepped
  | steps n => exact h.steps n
  | turnLeft n => exact h.turnLeft n
  | turnRight n => exact h.turnRight n
  | setMode m => exact h.setMode m
  | clear => exact h.clear

/-- No command makes a sound canvas unsound. -/
theorem Sound.obey (h : Sound s c) (k : Command) : Sound s (c.obey k) := by
  cases k with
  | steps n => exact h.steps n
  | left n => exact h.turnLeft n
  | right n => exact h.turnRight n
  | hover => exact h.setMode .hover
  | draw => exact h.setMode .draw
  | erase => exact h.setMode .eraser
  | coord => exact h
  | render => exact h
  | clear => exact h.clear
  | quit => exact h
  | test => exact h.square

theorem Sound.obeyAll (h : Sound s c) (ks : List Command) : Sound s (c.obeyAll ks) := by
  induction ks generalizing c with
  | nil => exact h
  | cons k ks ih => exact ih (h.obey k)

/-- No payload makes a sound canvas unsound. -/
theorem Sound.process (h : Sound s c) (payload : List UInt8) :
    Sound s (c.process payload).canvas := by
  rw [(c.after_process payload).canvas]
  exact h.obeyAll _

/-- Every reachable canvas is sound. -/
theorem Reachable.sound (hs : s.Valid) (h : Reachable s c) : Sound s c := by
  induction h with
  | blank => exact sound_blank hs
  | perform _ o ih => exact ih.perform o
  | obey _ k ih => exact ih.obey k
  | process _ payload ih => exact ih.process payload

/-! ## The main statement -/

/-- **Nothing ever lies outside.** On every canvas that a valid setup can lead to, the pen stands
within the extent and faces one of the eight headings; every occupied cell lies within the extent and
holds the glyph of the setup; there are no more occupied cells than the extent has; the setup is the
one from which the canvas was made; and the row of the pen can be counted from the top. -/
theorem within_of_reachable (hs : s.Valid) (h : Reachable s c) :
    (c.pen.cell.col < s.extent.cols ∧ c.pen.cell.row < s.extent.rows ∧ c.pen.heading.val < 8) ∧
      (∀ d glyph, c.sheet.get? d = some glyph →
        d.col < s.extent.cols ∧ d.row < s.extent.rows ∧ glyph = s.glyph) ∧
      c.sheet.size ≤ s.extent.cols * s.extent.rows ∧
      c.setup = s ∧
      c.coord.2 + (c.pen.cell.row + 1) = s.extent.rows := by
  have hc := h.sound hs
  refine ⟨⟨hc.inside.1, hc.inside.2, c.pen.heading.isLt⟩, ?_, ?_, hc.setup_eq, ?_⟩
  · intro d glyph hd
    obtain ⟨⟨hcol, hrow⟩, hglyph⟩ := hc.drawn d glyph hd
    exact ⟨hcol, hrow, hglyph⟩
  · apply Sheet.size_le_of_holds
    intro d hd
    obtain ⟨glyph, hglyph⟩ := Option.ne_none_iff_exists'.1 hd
    exact (hc.drawn d glyph hglyph).1
  · have hrow := hc.inside.2
    rw [coord, extent, hc.setup_eq]
    omega

/-- The longest stroke of all and the square, on the canvas for which nothing is given. -/
theorem within_of_reachable_usual :
    let c := ((blank .usual).perform (.steps (2 ^ 63 - 1))).obey .test
    Setup.usual.Valid ∧ Reachable .usual c ∧
      (c.pen.cell.col < 30 ∧ c.pen.cell.row < 30 ∧ c.pen.heading.val < 8) ∧
      (∀ d glyph, c.sheet.get? d = some glyph → d.col < 30 ∧ d.row < 30 ∧ glyph = '*') ∧
      c.sheet.size ≤ 30 * 30 ∧ c.setup = .usual ∧ c.coord.2 + (c.pen.cell.row + 1) = 30 := by
  intro c
  have hs : Setup.usual.Valid := by decide
  have hc : Reachable .usual c := (Reachable.blank.perform _).obey _
  exact ⟨hs, hc, within_of_reachable hs hc⟩

end Plotter.Canvas
