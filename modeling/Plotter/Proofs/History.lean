import Plotter.Proofs.Edits
import Plotter.Proofs.Script
import Plotter.Proofs.Stroke

/-!
# The history of a sheet

What a session does to its sheet, told as a list of deeds: one for every step, with the cell of the
pen before the step and its mode, and one for every time that the sheet is cleared
(`Canvas.history`). Nothing else that a command does is a deed.

A sheet is what its history says and nothing more (`Canvas.obeyAll_sheet`). A deed is an edit of the
sheet with the glyph of the pen, or none at all (`Deed.edit?`), so that at a single cell only the last
deeds count: there is a glyph exactly if the cell was drawn on and neither cleared nor erased since
then (`Deed.Drawn`, `Sheet.get?_undergoAll_eq_some_iff`).
-/

namespace Plotter

/-! ## Deeds -/

/-- What can happen to a sheet. -/
inductive Deed
  /-- A step marks a cell in a mode. -/
  | mark (cell : Cell) (mode : Mode)
  /-- Every glyph is removed. -/
  | clear
deriving DecidableEq, Repr

namespace Deed

/-- A deed that may change a sheet: all but the steps of a pen that leaves nothing behind. -/
def Counts : Deed → Prop
  | mark _ .draw => True
  | mark _ .hover => False
  | mark _ .eraser => True
  | clear => True

instance : DecidablePred Counts
  | mark _ .draw => .isTrue trivial
  | mark _ .hover => .isFalse id
  | mark _ .eraser => .isTrue trivial
  | clear => .isTrue trivial

/-- A cell was drawn on, and since the last time it was, no sheet was cleared and the cell was not
erased. -/
def Drawn (history : List Deed) (c : Cell) : Prop :=
  ∃ before after, history = before ++ mark c .draw :: after ∧
    clear ∉ after ∧ mark c .draw ∉ after ∧ mark c .eraser ∉ after

/-- The edit of a sheet that a deed of a pen with a glyph is, if it is one. -/
def edit? (glyph : Char) : Deed → Option Edit
  | mark c .draw => some (.write c glyph)
  | mark _ .hover => none
  | mark c .eraser => some (.wipe c)
  | clear => some .clear

/-- The deeds that decide what is at a cell. -/
theorem any_touches_edit?_iff {glyph : Char} {e : Deed} {c : Cell} :
    (e.edit? glyph).any (Edit.Touches · c) = true ↔
      e = clear ∨ e = mark c .draw ∨ e = mark c .eraser := by
  cases e with
  | clear => simp [edit?]
  | mark d m => cases m <;> simp [edit?]

/-- A deed writes a glyph at a cell exactly if it draws there with this glyph. -/
theorem edit?_eq_some_write_iff {glyph g : Char} {e : Deed} {c : Cell} :
    e.edit? glyph = some (.write c g) ↔ e = mark c .draw ∧ g = glyph := by
  cases e with
  | clear => simp [edit?]
  | mark d m => cases m <;> simp [edit?, eq_comm]

/-- A cell was drawn on, and has been neither cleared nor erased since, exactly if to draw on it was
the last deed that decides what is there. -/
theorem drawn_iff (glyph : Char) {history : List Deed} {c : Cell} :
    Drawn history c ↔
      history.reverse.find? (fun e => (e.edit? glyph).any (Edit.Touches · c)) =
        some (mark c .draw) := by
  rw [find?_reverse_eq_some_iff, and_iff_right (any_touches_edit?_iff.2 (.inr (.inl rfl)))]
  simp only [Drawn, ← Bool.not_eq_true, any_touches_edit?_iff, not_or, forall_and,
    List.forall_mem_ne']

end Deed

/-! ## What deeds do to a sheet -/

namespace Sheet

/-- The sheet after a deed of a pen that draws with a glyph. -/
def undergo (glyph : Char) (s : Sheet) : Deed → Sheet
  | .mark c m => s.mark m c glyph
  | .clear => empty

/-- The sheet after deeds, one after the other. -/
def undergoAll (glyph : Char) (s : Sheet) (history : List Deed) : Sheet :=
  history.foldl (undergo glyph) s

@[simp] theorem undergoAll_nil (glyph : Char) (s : Sheet) : s.undergoAll glyph [] = s := rfl

@[simp] theorem undergoAll_cons (glyph : Char) (s : Sheet) (e : Deed) (history : List Deed) :
    s.undergoAll glyph (e :: history) = (s.undergo glyph e).undergoAll glyph history := rfl

theorem undergoAll_append (glyph : Char) (s : Sheet) (before after : List Deed) :
    s.undergoAll glyph (before ++ after) = (s.undergoAll glyph before).undergoAll glyph after :=
  List.foldl_append

/-- Deeds do to a sheet what their edits do. -/
theorem undergoAll_eq_editAll (glyph : Char) (s : Sheet) (history : List Deed) :
    s.undergoAll glyph history = s.editAll (history.filterMap (Deed.edit? glyph)) := by
  induction history generalizing s with
  | nil => rfl
  | cons e history ih =>
    rw [undergoAll_cons, ih]
    cases e with
    | clear => rfl
    | mark c m => cases m <;> rfl

/-- **The last deed at a cell decides.** After a history that begins with an empty sheet, a cell
holds a glyph exactly if it was drawn on and has been neither cleared nor erased since. -/
theorem get?_undergoAll_eq_some_iff {glyph g : Char} {history : List Deed} {c : Cell} :
    (empty.undergoAll glyph history).get? c = some g ↔ Deed.Drawn history c ∧ g = glyph := by
  rw [undergoAll_eq_editAll, get?_editAll_empty_eq_some_iff, Edit.last?, ← List.filterMap_reverse,
    List.find?_filterMap, Option.bind_eq_some_iff, Deed.drawn_iff glyph]
  constructor
  · rintro ⟨e, he, hwrite⟩
    obtain ⟨rfl, rfl⟩ := Deed.edit?_eq_some_write_iff.1 hwrite
    exact ⟨he, rfl⟩
  · rintro ⟨he, rfl⟩
    exact ⟨_, he, rfl⟩

/-- The steps of a pen that leaves nothing behind can be struck out of a history. -/
theorem undergoAll_filter_counts (glyph : Char) (s : Sheet) (history : List Deed) :
    s.undergoAll glyph (history.filter Deed.Counts) = s.undergoAll glyph history := by
  induction history generalizing s with
  | nil => rfl
  | cons e history ih =>
    by_cases he : e.Counts
    · rw [List.filter_cons_of_pos (by simpa using he), undergoAll_cons, undergoAll_cons, ih]
    · have hs : s.undergo glyph e = s := by
        cases e with
        | clear => exact absurd trivial he
        | mark d m =>
          cases m with
          | draw => exact absurd trivial he
          | hover => rfl
          | eraser => exact absurd trivial he
      rw [List.filter_cons_of_neg (by simpa using he), undergoAll_cons, hs, ih]

end Sheet

/-! ## The deeds of a session -/

namespace Canvas

/-- What the step made on a canvas does to its sheet. -/
def deed (c : Canvas) : Deed := .mark c.pen.cell c.pen.mode

/-- What a stroke of `n` steps does to the sheet, one deed for every step that it makes. -/
def strokeDeeds (c : Canvas) (n : Int) : List Deed := (stations n.toNat c).map deed

/-- What a command does to the sheet. -/
def deeds (c : Canvas) : Command → List Deed
  | .steps n => c.strokeDeeds n
  | .clear => [.clear]
  | .test => c.corners.flatMap (·.strokeDeeds sideSteps)
  | _ => []

/-- What commands do to the sheet, one after the other. -/
def history : Canvas → List Command → List Deed
  | _, [] => []
  | c, k :: ks => c.deeds k ++ (c.obey k).history ks

/-- No command changes the setup. -/
theorem obey_setup (c : Canvas) (k : Command) : (c.obey k).setup = c.setup := by
  cases k with
  | steps n => exact walk_setup _ c
  | test =>
    have hside : ∀ d : Canvas, d.side.setup = d.setup := fun d => walk_setup _ d
    simp only [obey, square, hside]
  | _ => rfl

/-- A mark on a sheet is the deed of the step that makes it. -/
theorem mark_sheet (c : Canvas) : c.mark.sheet = c.sheet.undergo c.setup.glyph c.deed := rfl

/-- A stroke does to the sheet what its deeds say. -/
theorem steps_sheet (c : Canvas) (n : Int) :
    (c.steps n).sheet = c.sheet.undergoAll c.setup.glyph (c.strokeDeeds n) := by
  rw [steps, strokeDeeds]
  induction n.toNat generalizing c with
  | zero => rfl
  | succ n ih =>
    rcases h : c.pen.ahead? c.extent with _ | d
    · rw [walk_succ_of_blocked h, stations_succ_of_blocked h, mark_sheet]
      rfl
    · rw [walk_succ_of_ahead h, stations_succ_of_ahead h, ih, moved_sheet, moved_setup,
        mark_setup, mark_sheet]
      rfl

/-- The example does to the sheet what the deeds of its four sides say. -/
theorem square_sheet (c : Canvas) :
    c.square.sheet = c.sheet.undergoAll c.setup.glyph (c.deeds .test) := by
  have hside : ∀ d : Canvas,
      d.side.sheet = d.sheet.undergoAll d.setup.glyph (d.strokeDeeds sideSteps) :=
    fun d => steps_sheet d sideSteps
  have hsetup : ∀ d : Canvas, d.side.setup = d.setup := fun d => walk_setup _ d
  simp only [square, deeds, corners, List.flatMap_cons, List.flatMap_nil, List.append_nil,
    Sheet.undergoAll_append, hside, hsetup]

/-- A command does to the sheet what its deeds say. -/
theorem obey_sheet (c : Canvas) (k : Command) :
    (c.obey k).sheet = c.sheet.undergoAll c.setup.glyph (c.deeds k) := by
  cases k with
  | steps n => exact steps_sheet c n
  | test => exact square_sheet c
  | _ => rfl

/-- Commands do to the sheet what their history says. -/
theorem obeyAll_sheet (c : Canvas) (ks : List Command) :
    (c.obeyAll ks).sheet = c.sheet.undergoAll c.setup.glyph (c.history ks) := by
  induction ks generalizing c with
  | nil => rfl
  | cons k ks ih =>
    rw [obeyAll_cons, ih, obey_setup, obey_sheet, history, Sheet.undergoAll_append]

/-- **A sheet is its history.** After any commands on a new canvas, a cell holds a glyph exactly if a
step in drawing mode was made on it after the last time the sheet was cleared, and no step in erasing
mode after the last of these; and then it is the glyph of the setup. Histories that differ only in
steps of a pen that leaves nothing behind lead to the same sheet, and the size of the sheet is the
number of cells with a glyph. -/
theorem get?_obeyAll_eq_some_iff (s : Setup) (ks : List Command) :
    (∀ d g, ((blank s).obeyAll ks).sheet.get? d = some g ↔
      Deed.Drawn ((blank s).history ks) d ∧ g = s.glyph) ∧
    (∀ d, ((blank s).obeyAll ks).sheet.get? d = none ↔
      ¬ Deed.Drawn ((blank s).history ks) d) ∧
    (∀ ls, ((blank s).history ls).filter Deed.Counts = ((blank s).history ks).filter Deed.Counts →
      ((blank s).obeyAll ls).sheet = ((blank s).obeyAll ks).sheet) ∧
    {d | ((blank s).obeyAll ks).sheet.get? d ≠ none}.encard =
      ((blank s).obeyAll ks).sheet.size := by
  have hsheet : ∀ ls : List Command, ((blank s).obeyAll ls).sheet =
      Sheet.empty.undergoAll s.glyph ((blank s).history ls) := obeyAll_sheet (blank s)
  have hsome : ∀ d g, ((blank s).obeyAll ks).sheet.get? d = some g ↔
      Deed.Drawn ((blank s).history ks) d ∧ g = s.glyph := by
    intro d g
    rw [hsheet, Sheet.get?_undergoAll_eq_some_iff]
  refine ⟨hsome, ?_, ?_, Sheet.encard_setOf_get?_ne_none _⟩
  · intro d
    rw [Option.eq_none_iff_forall_ne_some]
    constructor
    · intro h hd
      exact h s.glyph ((hsome d s.glyph).2 ⟨hd, rfl⟩)
    · intro h g hg
      exact h ((hsome d g).1 hg).1
  · intro ls h
    rw [hsheet, hsheet, ← Sheet.undergoAll_filter_counts, h, Sheet.undergoAll_filter_counts]

end Canvas

end Plotter
