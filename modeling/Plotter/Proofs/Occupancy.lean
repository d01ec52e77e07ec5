import Mathlib.Data.Finset.Prod
import Mathlib.Data.Set.Card
import Plotter.Sheet

/-!
# Occupied cells

The cells of a sheet that hold a glyph, as a finite set (`Sheet.cells`). The size that a sheet
reports is their number (`Sheet.card_cells`), so that writing over a glyph and wiping an empty cell
leave it as it is. A sheet whose glyphs all lie within an extent has no more of them than the extent
has cells (`Sheet.size_le_of_holds`).
-/

namespace Plotter.Sheet

/-- The cells that hold a glyph. -/
def cells (s : Sheet) : Finset Cell := s.glyphs.keys.toFinset

theorem mem_cells {s : Sheet} {c : Cell} : c ∈ s.cells ↔ s.get? c ≠ none := by
  rw [cells, List.mem_toFinset, Std.ExtTreeMap.mem_keys, Std.ExtTreeMap.mem_iff_isSome_getElem?,
    Option.isSome_iff_ne_none]
  rfl

/-- The size of a sheet is the number of its occupied cells. -/
theorem card_cells (s : Sheet) : s.cells.card = s.size := by
  rw [cells, List.toFinset_card_of_nodup Std.ExtTreeMap.nodup_keys, Std.ExtTreeMap.length_keys]
  rfl

/-- The size of a sheet is the number of cells at which a glyph is found. -/
theorem encard_setOf_get?_ne_none (s : Sheet) : {c | s.get? c ≠ none}.encard = s.size := by
  have hs : {c | s.get? c ≠ none} = (s.cells : Set Cell) := by
    ext c
    exact mem_cells.symm
  rw [hs, Set.encard_coe_eq_coe_finsetCard, card_cells]

/-- A glyph written at a cell adds to the size unless there was one before. -/
theorem size_write (s : Sheet) (c : Cell) (glyph : Char) :
    (s.write c glyph).size = if s.get? c = none then s.size + 1 else s.size := by
  rw [write, size, Std.ExtTreeMap.size_insert, Std.ExtTreeMap.contains_eq_isSome_getElem?, get?]
  cases s.glyphs[c]? <;> rfl

/-- Wiping a cell takes away from the size unless there was no glyph. -/
theorem size_wipe (s : Sheet) (c : Cell) :
    (s.wipe c).size = if s.get? c = none then s.size else s.size - 1 := by
  rw [wipe, size, Std.ExtTreeMap.size_erase, Std.ExtTreeMap.contains_eq_isSome_getElem?, get?]
  cases s.glyphs[c]? <;> rfl

/-- A sheet is empty exactly if no cell holds a glyph. -/
theorem isEmpty_iff {s : Sheet} : s.isEmpty = true ↔ ∀ c, s.get? c = none := by
  rw [isEmpty, Std.ExtTreeMap.isEmpty_iff]
  constructor
  · intro h c
    rw [get?, h]
    exact get?_empty c
  · intro h
    have hs : s = empty := ext fun c => by rw [h, get?_empty]
    rw [hs]
    rfl

/-- Glyphs that lie within an extent are no more than its cells. -/
theorem size_le_of_holds {s : Sheet} {e : Extent} (h : ∀ c, s.get? c ≠ none → e.Holds c) :
    s.size ≤ e.cols * e.rows := by
  have hmaps : ∀ c ∈ s.cells, (c.col, c.row) ∈ Finset.range e.cols ×ˢ Finset.range e.rows := by
    intro c hc
    obtain ⟨hcol, hrow⟩ := h c (mem_cells.1 hc)
    exact Finset.mem_product.2 ⟨Finset.mem_range.2 hcol, Finset.mem_range.2 hrow⟩
  have hinj : Set.InjOn (fun c : Cell => (c.col, c.row)) s.cells := by
    rintro ⟨col, row⟩ - ⟨col', row'⟩ - heq
    obtain ⟨rfl, rfl⟩ := Prod.mk.inj heq
    rfl
  have hle := Finset.card_le_card_of_injOn _ hmaps hinj
  rwa [card_cells, Finset.card_product, Finset.card_range, Finset.card_range] at hle

end Plotter.Sheet
