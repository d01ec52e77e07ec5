import Plotter.Proofs.Reach

/-!
# Steering

Where a pen goes does not depend on what is drawn. Nothing that a command reads to move the pen, or
to report its place, is on the sheet: mode and glyph say what is left behind, and what was left
behind is shown but never looked at on the way.

Two canvases are parallel if they are of the same size and their pens stand on the same cell and
face the same heading (`Canvas.Parallel`). Every command keeps them so (`Canvas.Parallel.obey`), and
one that does not steer leaves a canvas parallel to itself (`Canvas.parallel_obey_of_not_steers`).
So it is the steering commands alone that decide where the pen ends and which places are reported
on the way (`Canvas.place_of_same_steering`), even in two sessions that have nothing else in common.
-/

namespace Plotter

/-- A command that steers the pen, or asks where it has been steered. The others choose a mode,
empty the sheet or show it. -/
def Command.steers : Command → Bool
  | .hover => false
  | .draw => false
  | .erase => false
  | .clear => false
  | .render => false
  | _ => true

namespace Canvas

/-- The answers to those of the commands that ask for the place of the pen, in order. -/
def reports : Canvas → List Command → List String
  | _, [] => []
  | c, k :: ks => (if k = .coord then [c.answer k] else []) ++ (c.obey k).reports ks

/-! ## Parallel canvases -/

/-- Two canvases of the same size whose pens stand on the same cell and face the same heading. Their
sheets, their glyphs and the modes of their pens may be any. -/
structure Parallel (c d : Canvas) : Prop where
  extent : c.extent = d.extent
  cell : c.pen.cell = d.pen.cell
  heading : c.pen.heading = d.pen.heading

variable {b c d : Canvas}

theorem Parallel.refl (c : Canvas) : c.Parallel c := ⟨rfl, rfl, rfl⟩

theorem Parallel.symm (h : c.Parallel d) : d.Parallel c :=
  ⟨h.extent.symm, h.cell.symm, h.heading.symm⟩

theorem Parallel.trans (h₁ : b.Parallel c) (h₂ : c.Parallel d) : b.Parallel d :=
  ⟨h₁.extent.trans h₂.extent, h₁.cell.trans h₂.cell, h₁.heading.trans h₂.heading⟩

/-- Parallel pens have the same cell ahead. -/
theorem Parallel.ahead?_eq (h : c.Parallel d) : c.pen.ahead? c.extent = d.pen.ahead? d.extent := by
  unfold Pen.ahead?
  rw [h.extent, h.cell, h.heading]

/-- Parallel canvases report the same place. -/
theorem Parallel.placeReport_eq (h : c.Parallel d) : c.placeReport = d.placeReport := by
  unfold placeReport coord
  rw [h.extent, h.cell]

/-- Marks make no difference, and pens that are put on the same cell stay parallel. -/
theorem Parallel.moved_mark (h : c.Parallel d) (e : Cell) :
    (c.mark.moved e).Parallel (d.mark.moved e) :=
  ⟨h.extent, rfl, h.heading⟩

/-- A stroke ends early on both of two parallel canvases or on neither. -/
theorem Parallel.walk (h : c.Parallel d) (n : Nat) : (walk n c).Parallel (walk n d) := by
  induction n generalizing c d with
  | zero => exact h
  | succ n ih =>
    rcases hc : c.pen.ahead? c.extent with _ | e
    · have hd : d.pen.ahead? d.extent = none := h.ahead?_eq.symm.trans hc
      rw [walk_succ_of_blocked hc, walk_succ_of_blocked hd]
      exact ⟨h.extent, h.cell, h.heading⟩
    · have hd : d.pen.ahead? d.extent = some e := h.ahead?_eq.symm.trans hc
      rw [walk_succ_of_ahead hc, walk_succ_of_ahead hd]
      exact ih (h.moved_mark e)

theorem Parallel.steps (h : c.Parallel d) (n : Int) : (c.steps n).Parallel (d.steps n) :=
  h.walk n.toNat

theorem Parallel.turnRight (h : c.Parallel d) (n : Int) :
    (c.turnRight n).Parallel (d.turnRight n) :=
  ⟨h.extent, h.cell, congrArg (·.turnRight n) h.heading⟩

theorem Parallel.turnLeft (h : c.Parallel d) (n : Int) :
    (c.turnLeft n).Parallel (d.turnLeft n) :=
  ⟨h.extent, h.cell, congrArg (·.turnLeft n) h.heading⟩

theorem Parallel.side (h : c.Parallel d) : c.side.Parallel d.side :=
  (h.steps sideSteps).turnRight cornerTurn

theorem Parallel.square (h : c.Parallel d) : c.square.Parallel d.square :=
  h.side.side.side.side

/-! ## Commands -/

/-- A command that does not steer leaves the pen where it is. -/
theorem parallel_obey_of_not_steers {k : Command} (hk : k.steers = false) (c : Canvas) :
    (c.obey k).Parallel c := by
  cases k with
  | hover => exact ⟨rfl, rfl, rfl⟩
  | draw => exact ⟨rfl, rfl, rfl⟩
  | erase => exact ⟨rfl, rfl, rfl⟩
  | clear => exact ⟨rfl, rfl, rfl⟩
  | render => exact Parallel.refl c
  | _ => exact absurd hk Bool.noConfusion

/-- **One command.** On parallel canvases a command leads to parallel canvases. -/
theorem Parallel.obey (h : c.Parallel d) (k : Command) : (c.obey k).Parallel (d.obey k) := by
  cases k with
  | steps n => exact h.steps n
  | left n => exact h.turnLeft n
  | right n => exact h.turnRight n
  | test => exact h.square
  | coord => exact h
  | quit => exact h
  | hover => exact ⟨h.extent, h.cell, h.heading⟩
  | draw => exact ⟨h.extent, h.cell, h.heading⟩
  | erase => exact ⟨h.extent, h.cell, h.heading⟩
  | clear => exact ⟨h.extent, h.cell, h.heading⟩
  | render => exact h

/-- Parallel canvases answer alike to the command that asks for a place. -/
theorem Parallel.answer_coord (h : c.Parallel d) : c.answer .coord = d.answer .coord :=
  h.placeReport_eq

theorem reports_cons_of_not_steers {k : Command} (hk : k.steers = false) (c : Canvas)
    (ks : List Command) : c.reports (k :: ks) = (c.obey k).reports ks := by
  have hcoord : k ≠ .coord := by
    rintro rfl
    cases hk
  rw [reports, if_neg hcoord, List.nil_append]

/-- **All commands.** The commands that do not steer can be struck out on one of two parallel
canvases: they stay parallel, and the same places are reported. -/
theorem Parallel.obeyAll_filter (h : c.Parallel d) (ks : List Command) :
    (c.obeyAll ks).Parallel (d.obeyAll (ks.filter Command.steers)) ∧
      c.reports ks = d.reports (ks.filter Command.steers) := by
  induction ks generalizing c d with
  | nil => exact ⟨h, rfl⟩
  | cons k ks ih =>
    cases hk : k.steers with
    | true =>
      obtain ⟨hend, hreports⟩ := ih (h.obey k)
      rw [List.filter_cons_of_pos hk, obeyAll_cons, obeyAll_cons, reports, reports, hreports]
      refine ⟨hend, ?_⟩
      split
      · next hcoord => rw [hcoord, h.answer_coord]
      · rfl
    | false =>
      rw [List.filter_cons_of_neg (Bool.not_eq_true _ ▸ hk), obeyAll_cons,
        reports_cons_of_not_steers hk]
      exact ih ((parallel_obey_of_not_steers hk c).trans h)

/-- **Movement does not depend on what is drawn.** Take two canvases of the same size with their
pens on the same cell and facing the same heading, whatever their modes, glyphs and sheets. Commands
that are the same once those are struck out which choose a mode, empty the sheet or show it lead
both pens to the same cell and the same heading, and the same places are reported on the way, text
for text. -/
theorem place_of_same_steering (h : c.Parallel d) {ks ls : List Command}
    (hsame : ks.filter Command.steers = ls.filter Command.steers) :
    (c.obeyAll ks).pen.cell = (d.obeyAll ls).pen.cell ∧
      (c.obeyAll ks).pen.heading = (d.obeyAll ls).pen.heading ∧
      c.reports ks = d.reports ls := by
  obtain ⟨hc, hcreports⟩ := h.obeyAll_filter ks
  obtain ⟨hd, hdreports⟩ := (Parallel.refl d).obeyAll_filter ls
  rw [hsame] at hc hcreports
  have hparallel : (c.obeyAll ks).Parallel (d.obeyAll ls) := hc.trans hd.symm
  exact ⟨hparallel.cell, hparallel.heading, hcreports.trans hdreports.symm⟩

/-- A new canvas, and one with another glyph that has the example drawn on it and a pen that erases:
strokes against an edge, turns and the example lead both pens to the same place. -/
theorem place_of_same_steering_after_example :
    let c := blank .usual
    let d := (blank { Setup.usual with glyph := '#' }).obeyAll [.test, .erase]
    let ks := [.hover, .steps 40, .coord, .right 1, .test, .render, .coord]
    let ls := [.steps 40, .clear, .coord, .draw, .right 1, .test, .coord]
    c.Parallel d ∧ ks.filter Command.steers = ls.filter Command.steers ∧
      (c.obeyAll ks).pen.cell = (d.obeyAll ls).pen.cell ∧
      (c.obeyAll ks).pen.heading = (d.obeyAll ls).pen.heading ∧
      c.reports ks = d.reports ls ∧ c.reports ks = ["(15,0)\r\n", "(10,5)\r\n"] := by
  intro c d ks ls
  have h : c.Parallel d := ⟨by decide, by decide, by decide⟩
  have hsame : ks.filter Command.steers = ls.filter Command.steers := by decide
  obtain ⟨hcell, hheading, hreports⟩ := place_of_same_steering h hsame
  exact ⟨h, hsame, hcell, hheading, hreports, by decide +kernel⟩

end Canvas

end Plotter
