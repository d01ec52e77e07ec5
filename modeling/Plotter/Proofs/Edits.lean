import Mathlib.Data.List.Induction
import Plotter.Proofs.Occupancy

/-!
# Edits of a sheet

A sheet can be edited in three ways: a glyph is written at a cell, a cell is wiped, or every glyph is
removed (`Edit`). This file says what a sheet holds after any number of edits, whoever made them and
whatever the glyphs and the cells are.

An edit touches the cells at which it decides what is there from then on (`Edit.Touches`), and leaves
all others alone (`Sheet.get?_edit`). So at each cell the last edit that touches it decides
(`Sheet.get?_editAll`), and of two lists of edits only the order at each cell counts
(`Sheet.editAll_congr`). The size of a sheet keeps pace with its contents: it is the number of the
cells at which a glyph is found, however often they were written or wiped
(`Sheet.editAll_exact`).
-/

namespace Plotter

/-- What is found first from the end of a list is followed by nothing of the kind that is looked
for. -/
theorem find?_reverse_eq_some_iff {α : Type} {p : α → Bool} {l : List α} {a : α} :
    l.reverse.find? p = some a ↔
      p a = true ∧ ∃ before after, l = before ++ a :: after ∧ ∀ x ∈ after, p x = false := by
  rw [List.find?_eq_some_iff_append]
  refine and_congr_right fun _ => ?_
  constructor
  · rintro ⟨after, before, hl, hafter⟩
    refine ⟨before.reverse, after.reverse, ?_, ?_⟩
    · rw [← l.reverse_reverse, hl, List.reverse_append, List.reverse_cons, List.append_assoc,
        List.singleton_append]
    · simpa using hafter
  · rintro ⟨before, after, rfl, hafter⟩
    refine ⟨after.reverse, before.reverse, ?_, ?_⟩
    · rw [List.reverse_append, List.reverse_cons, List.append_assoc, List.singleton_append]
    · simpa using hafter

/-! ## Edits -/

/-- What can be done to a sheet. -/
inductive Edit
  /-- A glyph is written at a cell. -/
  | write (cell : Cell) (glyph : Char)
  /-- A cell is emptied. -/
  | wipe (cell : Cell)
  /-- Every cell is emptied. -/
  | clear
deriving DecidableEq, Repr

namespace Edit

/-- An edit decides what is at a cell. -/
def Touches : Edit → Cell → Prop
  | write d _, c => d = c
  | wipe d, c => d = c
  | clear, _ => True

instance (x : Edit) (c : Cell) : Decidable (x.Touches c) :=
  match x with
  | write d _ => inferInstanceAs (Decidable (d = c))
  | wipe d => inferInstanceAs (Decidable (d = c))
  | clear => .isTrue trivial

@[simp] theorem touches_write {d c : Cell} {glyph : Char} : (write d glyph).Touches c ↔ d = c := .rfl

@[simp] theorem touches_wipe {d c : Cell} : (wipe d).Touches c ↔ d = c := .rfl

@[simp] theorem touches_clear (c : Cell) : clear.Touches c := trivial

/-- What is at the cells that an edit touches, once it is made. -/
def leaves : Edit → Option Char
  | write _ glyph => some glyph
  | wipe _ => none
  | clear => none

/-- A glyph stands at a cell: it was written there, and since then nothing else was, the cell was not
wiped, and the sheet was not cleared. -/
def Stands (xs : List Edit) (c : Cell) (glyph : Char) : Prop :=
  ∃ before after, xs = before ++ write c glyph :: after ∧ ∀ x ∈ after, ¬ x.Touches c

/-- The last edit that touches a cell. -/
def last? (xs : List Edit) (c : Cell) : Option Edit := xs.reverse.find? (Touches · c)

theorem last?_concat (xs : List Edit) (x : Edit) (c : Cell) :
    last? (xs ++ [x]) c = if x.Touches c then some x else last? xs c := by
  by_cases hx : x.Touches c <;> simp [last?, hx]

/-- The last edit that touches a cell does not depend on the edits that do not touch it. -/
theorem last?_eq_of_filter_eq {xs ys : List Edit} {c : Cell}
    (h : xs.filter (Touches · c) = ys.filter (Touches · c)) : last? xs c = last? ys c := by
  rw [last?, last?, ← List.head?_filter, ← List.head?_filter, List.filter_reverse,
    List.filter_reverse, h]

/-- A glyph stands at a cell exactly if it was written by the last edit that touches it. -/
theorem stands_iff_last? {xs : List Edit} {c : Cell} {glyph : Char} :
    Stands xs c glyph ↔ last? xs c = some (write c glyph) := by
  rw [last?, find?_reverse_eq_some_iff]
  simp [Stands]

end Edit

/-! ## What edits do to a sheet -/

namespace Sheet

/-- The sheet after an edit. -/
def edit (s : Sheet) : Edit → Sheet
  | .write c glyph => s.write c glyph
  | .wipe c => s.wipe c
  | .clear => empty

/-- The sheet after edits, one after the other. -/
def editAll (s : Sheet) (xs : List Edit) : Sheet := xs.foldl edit s

theorem editAll_concat (s : Sheet) (xs : List Edit) (x : Edit) :
    s.editAll (xs ++ [x]) = (s.editAll xs).edit x := List.foldl_concat _ _ _ _

/-- An edit changes the cells that it touches and no others. -/
theorem get?_edit (s : Sheet) (x : Edit) (c : Cell) :
    (s.edit x).get? c = if x.Touches c then x.leaves else s.get? c := by
  cases x with
  | write d glyph => exact get?_write s d c glyph
  | wipe d => exact get?_wipe s d c
  | clear => exact get?_empty c

/-- **The last edit that touches a cell decides.** A cell that no edit touches is as it was. -/
theorem get?_editAll (s : Sheet) (xs : List Edit) (c : Cell) :
    (s.editAll xs).get? c = (Edit.last? xs c).elim (s.get? c) Edit.leaves := by
  induction xs using List.reverseRecOn with
  | nil => rfl
  | append_singleton xs x ih =>
    rw [editAll_concat, get?_edit, Edit.last?_concat, ih]
    split <;> rfl

/-- On a sheet that was empty at first, a glyph is found exactly where it was written by the last edit
that touches the cell. -/
theorem get?_editAll_empty_eq_some_iff {xs : List Edit} {c : Cell} {glyph : Char} :
    (empty.editAll xs).get? c = some glyph ↔ Edit.last? xs c = some (.write c glyph) := by
  rw [get?_editAll, get?_empty]
  constructor
  · intro h
    rcases hlast : Edit.last? xs c with _ | x
    · rw [hlast] at h
      cases h
    · have htouches : x.Touches c := by simpa using List.find?_some hlast
      rw [hlast] at h
      cases x with
      | write d g =>
        obtain rfl : d = c := htouches
        obtain rfl : g = glyph := Option.some.inj h
        rfl
      | wipe d => cases h
      | clear => cases h
  · intro hlast
    rw [hlast]
    rfl

/-- Edits whose order is the same at each cell lead to the same sheet. -/
theorem editAll_congr {xs ys : List Edit}
    (h : ∀ c, xs.filter (Edit.Touches · c) = ys.filter (Edit.Touches · c)) (s : Sheet) :
    s.editAll xs = s.editAll ys := by
  apply ext
  intro c
  rw [get?_editAll, get?_editAll, Edit.last?_eq_of_filter_eq (h c)]

/-- Edits that touch no cell in common can be made in either order. -/
theorem edit_edit_comm {x y : Edit} (h : ∀ c, x.Touches c → ¬ y.Touches c) (s : Sheet) :
    (s.edit x).edit y = (s.edit y).edit x := by
  show s.editAll [x, y] = s.editAll [y, x]
  apply editAll_congr
  intro c
  by_cases hx : x.Touches c
  · simp [hx, h c hx]
  · by_cases hy : y.Touches c <;> simp [hx, hy]

/-! ## The main statement -/

/-- **A sheet is what its last edits say.** After any edits of an empty sheet, a cell holds a glyph
exactly if this was the last to be written there and neither the cell was wiped nor the sheet cleared
since then, and holds none if there is no such glyph. The size of the sheet is the number of cells
with a glyph: writing over a glyph does not add to it, and wiping an empty cell does not take away
from it. The sheet is empty exactly if no cell holds a glyph. Two edits that touch no cell in common
can be made in either order, and all edits in any order that is the same at each cell. -/
theorem editAll_exact (xs : List Edit) :
    let s := empty.editAll xs
    (∀ c glyph, s.get? c = some glyph ↔ Edit.Stands xs c glyph) ∧
      (∀ c, s.get? c = none ↔ ∀ glyph, ¬ Edit.Stands xs c glyph) ∧
      {c | s.get? c ≠ none}.encard = s.size ∧
      (∀ c glyph, (s.write c glyph).size = if s.get? c = none then s.size + 1 else s.size) ∧
      (∀ c, (s.wipe c).size = if s.get? c = none then s.size else s.size - 1) ∧
      (s.isEmpty = true ↔ ∀ c, s.get? c = none) ∧
      (∀ x y : Edit, (∀ c, x.Touches c → ¬ y.Touches c) →
        (s.edit x).edit y = (s.edit y).edit x) ∧
      ∀ ys : List Edit, (∀ c, ys.filter (Edit.Touches · c) = xs.filter (Edit.Touches · c)) →
        empty.editAll ys = s := by
  intro s
  have hsome : ∀ c glyph, s.get? c = some glyph ↔ Edit.Stands xs c glyph := by
    intro c glyph
    rw [get?_editAll_empty_eq_some_iff, Edit.stands_iff_last?]
  refine ⟨hsome, ?_, s.encard_setOf_get?_ne_none, s.size_write, s.size_wipe, isEmpty_iff,
    fun x y h => edit_edit_comm h s, fun ys h => editAll_congr h empty⟩
  intro c
  rw [Option.eq_none_iff_forall_ne_some]
  exact forall_congr' fun glyph => not_congr (hsome c glyph)

/-- A blank written over a glyph is found there and counted once. -/
example :
    let s := empty.editAll [.write ⟨3, 4⟩ '*', .write ⟨3, 4⟩ ' ', .wipe ⟨4, 3⟩]
    s.get? ⟨3, 4⟩ = some ' ' ∧ s.size = 1 ∧ s.isEmpty = false := by
  decide +kernel

end Sheet

end Plotter
