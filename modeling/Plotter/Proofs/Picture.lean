import Plotter.Picture
import Plotter.Proofs.Reach
import Plotter.Proofs.Text.Breaking

/-!
# Pictures

What can be read off a picture. Broken at its endings, the picture of a reachable canvas gives the
two edges, a line for every row, the empty line and what is behind the last ending, each in its place
(`ShownBy`). From them the extent and every cell can be read back, provided that no glyph looks like
an empty cell (`Sound.get?_eq`).

The glyph may be any character, a carriage return or a line feed included. No row has an ending of
its own all the same, since all glyphs of a reachable canvas are the same one
(`Sound.unbroken_rowLine`).
-/

namespace Plotter.Canvas

open Text

variable {s : Setup} {c d : Canvas}

/-! ## The lines of a picture -/

/-- The lines `ls` show a canvas: an upper edge, a line for each row from the highest down, a lower
edge and two empty lines. -/
structure ShownBy (c : Canvas) (ls : List (List Char)) : Prop where
  /-- There are four lines besides those for the rows. -/
  length : ls.length = c.extent.rows + 4
  /-- The first line is the upper edge. -/
  upper : ls[0]? = some (['╔'] ++ List.replicate c.extent.cols '═' ++ ['╗'])
  /-- The lower edge comes after the rows. -/
  lower : ls[c.extent.rows + 1]? = some (['╚'] ++ List.replicate c.extent.cols '═' ++ ['╝'])
  /-- The lower edge is followed by an empty line. -/
  blank : ls[c.extent.rows + 2]? = some []
  /-- Nothing is behind the last ending. -/
  behind : ls[c.extent.rows + 3]? = some []
  /-- Every row has its line, with a bar at both ends and the content of each cell between them. -/
  row : ∀ i, 1 ≤ i → i ≤ c.extent.rows → ∃ l, ls[i]? = some l ∧ l.length = c.extent.cols + 2 ∧
    l[0]? = some '║' ∧ l[c.extent.cols + 1]? = some '║' ∧
      ∀ j < c.extent.cols, l[j + 1]? = some ((c.sheet.get? ⟨j, c.extent.rows - i⟩).getD ' ')

theorem getElem?_zero_rowLine (c : Canvas) (row : Nat) : (c.rowLine row)[0]? = some '║' := rfl

theorem getElem?_cols_rowLine (c : Canvas) (row : Nat) :
    (c.rowLine row)[c.extent.cols + 1]? = some '║' := by
  simp [rowLine]

/-- A cell is shown behind the bar and the cells to its left. -/
theorem getElem?_rowLine {col : Nat} (h : col < c.extent.cols) (row : Nat) :
    (c.rowLine row)[col + 1]? = some (c.shown ⟨col, row⟩) := by
  simp [rowLine, List.getElem?_append, h]

@[simp] theorem length_rowLines (c : Canvas) : c.rowLines.length = c.extent.rows := by
  simp [rowLines]

/-- The rows are counted from the top. -/
theorem getElem?_rowLines {k : Nat} (h : k < c.extent.rows) :
    c.rowLines[k]? = some (c.rowLine (c.extent.rows - 1 - k)) := by
  simp [rowLines, h]

theorem getElem?_pictureLines {k : Nat} (h : k < c.extent.rows) (more : List (List Char)) :
    (c.pictureLines ++ more)[k + 1]? = some (c.rowLine (c.extent.rows - 1 - k)) := by
  have hk : k < c.rowLines.length := by rwa [length_rowLines]
  rw [← getElem?_rowLines h, pictureLines, List.append_assoc, List.append_assoc,
    List.singleton_append, List.getElem?_cons_succ, List.getElem?_append_left hk]

theorem shownBy_pictureLines (c : Canvas) : c.ShownBy (c.pictureLines ++ [[]]) where
  length := by simp
  upper := rfl
  lower := by simp [pictureLines, lowerEdge]
  blank := by simp [pictureLines]
  behind := by simp
  row i h₁ h₂ := by
    obtain ⟨k, rfl⟩ : ∃ k, i = k + 1 := Nat.exists_eq_succ_of_ne_zero (by omega)
    refine ⟨_, getElem?_pictureLines h₂ [[]], c.length_rowLine _, c.getElem?_zero_rowLine _,
      c.getElem?_cols_rowLine _, ?_⟩
    intro j hj
    have hrow : c.extent.rows - 1 - k = c.extent.rows - (k + 1) := by omega
    rw [getElem?_rowLine hj, shown, hrow]

/-! ## Breaking a picture at its endings -/

theorem unbroken_upperEdge (c : Canvas) : Unbroken '\r' '\n' c.upperEdge :=
  unbroken_of_not_mem (Or.inl (by simp [upperEdge]))

theorem unbroken_lowerEdge (c : Canvas) : Unbroken '\r' '\n' c.lowerEdge :=
  unbroken_of_not_mem (Or.inl (by simp [lowerEdge]))

/-- A cell shows the glyph of the setup or a space. -/
theorem Sound.shown_eq (h : Sound s c) (e : Cell) : c.shown e = s.glyph ∨ c.shown e = ' ' := by
  rcases hget : c.sheet.get? e with _ | glyph
  · right
    rw [shown, hget]
    rfl
  · left
    rw [shown, hget]
    exact (h.drawn e glyph hget).2

/-- The line of a row holds no character but bars, spaces and the glyph of the setup. -/
theorem Sound.of_mem_rowLine (h : Sound s c) {row : Nat} {x : Char} (hx : x ∈ c.rowLine row) :
    x = '║' ∨ x = s.glyph ∨ x = ' ' := by
  simp only [rowLine, List.mem_append, List.mem_singleton, List.mem_map] at hx
  rcases hx with (rfl | ⟨col, -, rfl⟩) | rfl
  · exact Or.inl rfl
  · exact Or.inr (h.shown_eq _)
  · exact Or.inl rfl

/-- There is no ending in the line of a row. A carriage return in it is the glyph, and then a line
feed is not. -/
theorem Sound.unbroken_rowLine (h : Sound s c) (row : Nat) :
    Unbroken '\r' '\n' (c.rowLine row) := by
  apply unbroken_of_not_mem
  by_cases hcr : s.glyph = '\r'
  · right
    intro hlf
    rcases h.of_mem_rowLine hlf with hx | hx | hx
    · cases hx
    · rw [hcr] at hx
      cases hx
    · cases hx
  · left
    intro hmem
    rcases h.of_mem_rowLine hmem with hx | hx | hx
    · cases hx
    · exact hcr hx.symm
    · cases hx

theorem Sound.unbroken_of_mem_pictureLines (h : Sound s c) {l : List Char}
    (hl : l ∈ c.pictureLines) : Unbroken '\r' '\n' l := by
  simp only [pictureLines, rowLines, List.mem_append, List.mem_map, List.mem_cons,
    List.not_mem_nil, or_false] at hl
  rcases hl with (rfl | ⟨row, -, rfl⟩) | rfl | rfl
  · exact c.unbroken_upperEdge
  · exact h.unbroken_rowLine row
  · exact c.unbroken_lowerEdge
  · exact unbroken_nil '\r' '\n'

/-- A picture is broken into the lines of which it was made. -/
theorem Sound.shownBy_lines_picture (h : Sound s c) : c.ShownBy (lines c.picture.toList) := by
  have hlines : lines c.picture.toList = c.pictureLines ++ [[]] := by
    rw [picture, String.toList_ofList]
    exact lines_terminate fun l hl => h.unbroken_of_mem_pictureLines hl
  rw [hlines]
  exact c.shownBy_pictureLines

/-! ## Reading a picture back -/

variable {ls : List (List Char)}

/-- The extent can be read off the number of lines and the length of the first. -/
theorem ShownBy.extent_eq (hc : c.ShownBy ls) (hd : d.ShownBy ls) : c.extent = d.extent := by
  have hrows : c.extent.rows = d.extent.rows := by
    have hlength := hc.length.symm.trans hd.length
    omega
  have hcols : c.extent.cols = d.extent.cols := by
    have hedge := Option.some.inj (hc.upper.symm.trans hd.upper)
    have hlength := congrArg List.length hedge
    simpa using hlength
  show (⟨c.extent.cols, c.extent.rows⟩ : Extent) = ⟨d.extent.cols, d.extent.rows⟩
  rw [hcols, hrows]

/-- Canvases shown by the same lines show the same in every cell. -/
theorem ShownBy.shown_eq (hc : c.ShownBy ls) (hd : d.ShownBy ls) {e : Cell}
    (he : c.extent.Holds e) : c.shown e = d.shown e := by
  obtain ⟨col, row⟩ := e
  obtain ⟨hcol, hrow⟩ : col < c.extent.cols ∧ row < c.extent.rows := he
  have hextent := hc.extent_eq hd
  obtain ⟨l, hl, -, -, -, hcontent⟩ := hc.row (c.extent.rows - row) (by omega) (by omega)
  obtain ⟨m, hm, -, -, -, hcontent'⟩ :=
    hd.row (c.extent.rows - row) (by omega) (by rw [← hextent]; omega)
  have hlm : l = m := Option.some.inj (hl.symm.trans hm)
  subst hlm
  have hshown := (hcontent col hcol).symm.trans (hcontent' col (hextent ▸ hcol))
  rw [← hextent, Nat.sub_sub_self hrow.le] at hshown
  exact Option.some.inj hshown

/-- Where the glyph does not look like an empty cell, a cell holds what it shows. -/
theorem Sound.get?_eq (h : Sound s c) (hglyph : s.glyph ≠ ' ') (e : Cell) :
    c.sheet.get? e = if c.shown e = ' ' then none else some (c.shown e) := by
  rcases hget : c.sheet.get? e with _ | glyph
  · have hshown : c.shown e = ' ' := by
      rw [shown, hget]
      rfl
    rw [if_pos hshown]
  · have hshown : c.shown e = glyph := by
      rw [shown, hget]
      rfl
    have hne : glyph ≠ ' ' := by
      rw [(h.drawn e glyph hget).2]
      exact hglyph
    rw [hshown, if_neg hne]

/-- Outside the extent no cell holds anything. -/
theorem Sound.get?_of_not_holds (h : Sound s c) {e : Cell} (he : ¬ c.extent.Holds e) :
    c.sheet.get? e = none := by
  rw [Option.eq_none_iff_forall_ne_some]
  intro glyph hget
  apply he
  rw [h.extent_eq]
  exact (h.drawn e glyph hget).1

/-- Sound canvases that are shown by the same lines hold the same. -/
theorem Sound.get?_eq_of_shownBy {t : Setup} (hs : Sound s c) (ht : Sound t d)
    (hsglyph : s.glyph ≠ ' ') (htglyph : t.glyph ≠ ' ') (hc : c.ShownBy ls) (hd : d.ShownBy ls)
    (e : Cell) : c.sheet.get? e = d.sheet.get? e := by
  by_cases he : c.extent.Holds e
  · rw [hs.get?_eq hsglyph, ht.get?_eq htglyph, hc.shown_eq hd he]
  · have he' : ¬ d.extent.Holds e := by rwa [← hc.extent_eq hd]
    rw [hs.get?_of_not_holds he, ht.get?_of_not_holds he']

/-! ## The main statement -/

/-- **A picture is exact and loses nothing.** Broken at its endings, the picture of a canvas that a
valid setup can lead to shows the edges, every row with its cells and nothing else; and of two such
canvases with the same picture, neither drawn on with spaces, the columns, the rows and every cell
are the same. -/
theorem shownBy_lines_picture_of_reachable (hs : s.Valid) (h : Reachable s c) :
    (c.extent = s.extent ∧ c.ShownBy (lines c.picture.toList)) ∧
      ∀ (t : Setup) (d : Canvas), t.Valid → Reachable t d → s.glyph ≠ ' ' → t.glyph ≠ ' ' →
        c.picture = d.picture →
          s.extent.cols = t.extent.cols ∧ s.extent.rows = t.extent.rows ∧
            ∀ e, c.sheet.get? e = d.sheet.get? e := by
  have hc := h.sound hs
  have hextent : c.extent = s.extent := by rw [extent, hc.setup_eq]
  refine ⟨⟨hextent, hc.shownBy_lines_picture⟩, ?_⟩
  intro t d ht hd hsglyph htglyph hpicture
  have hd := hd.sound ht
  have hcshown := hc.shownBy_lines_picture
  have hdshown := hd.shownBy_lines_picture
  rw [← hpicture] at hdshown
  have hsame : s.extent = t.extent := by
    rw [← hextent, hcshown.extent_eq hdshown, extent, hd.setup_eq]
  refine ⟨congrArg Extent.cols hsame, congrArg Extent.rows hsame, ?_⟩
  exact hc.get?_eq_of_shownBy hd hsglyph htglyph hcshown hdshown

/-- Two canvases that are drawn on with a carriage return, one from its corner, the other from
above it. -/
theorem shownBy_lines_picture_of_reachable_carriage_return :
    let s : Setup := ⟨⟨3, 2⟩, '\r', ⟨0, 0⟩⟩
    let t : Setup := ⟨⟨3, 2⟩, '\r', ⟨0, 1⟩⟩
    let c := (blank s).obeyAll [.steps 1]
    let d := (blank t).obeyAll [.right 4, .hover, .steps 1, .draw, .steps 1]
    s.Valid ∧ Reachable s c ∧ t.Valid ∧ Reachable t d ∧ c.picture = d.picture ∧
      (lines c.picture.toList).length = 6 ∧
      (∃ l, (lines c.picture.toList)[2]? = some l ∧ l[1]? = some '\r' ∧ l[2]? = some ' ') ∧
      ∀ e, c.sheet.get? e = d.sheet.get? e := by
  intro s t c d
  have hs : s.Valid := by decide
  have ht : t.Valid := by decide
  have hc : Reachable s c := Reachable.blank.obeyAll _
  have hd : Reachable t d := Reachable.blank.obeyAll _
  have hpicture : c.picture = d.picture := by decide +kernel
  obtain ⟨⟨hextent, hshown⟩, hsame⟩ := shownBy_lines_picture_of_reachable hs hc
  obtain ⟨-, -, hget⟩ := hsame t d ht hd (by decide) (by decide) hpicture
  have hlength := hshown.length
  obtain ⟨l, hl, -, -, -, hcells⟩ := hshown.row 2 (by decide) (by rw [hextent])
  rw [hextent] at hlength hcells
  have hdrawn : c.sheet.get? ⟨0, 0⟩ = some '\r' := by decide +kernel
  have hempty : c.sheet.get? ⟨1, 0⟩ = none := by decide +kernel
  refine ⟨hs, hc, ht, hd, hpicture, hlength, ⟨l, hl, ?_, ?_⟩, hget⟩
  · exact (hcells 0 (by decide)).trans (congrArg (fun g => some (g.getD ' ')) hdrawn)
  · exact (hcells 1 (by decide)).trans (congrArg (fun g => some (g.getD ' ')) hempty)

end Plotter.Canvas
