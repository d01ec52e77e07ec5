import Mathlib.Logic.Basic
import Plotter.Settings

/-!
# Putting two layers together

Which choices and profiles give settings, which settings they give, and what is said to be wrong
with the others (`Settings.merge_exact`). What counts is what the two layers come to together: a
choice may empty the canvas of a file, or shrink it until the pen that the file puts down lies
outside. So both the conditions for success (`Settings.Sensible`) and the first thing wrong
(`Settings.FirstWrong`) are about an extent, a text for the glyph and a start, wherever they come
from.

The start that is worked out lies within every extent that has a cell, so only a file can put the
pen outside. And settings are what they were merged from: written down as a profile, they come out
again (`Settings.merge_profile`).
-/

namespace Plotter.Settings

/-! ## What is checked -/

/-- Nothing is wrong with an extent, the text for a glyph and a start. -/
structure Sensible (e : Extent) (glyph : String) (start : Cell) : Prop where
  cols : 0 < e.cols
  rows : 0 < e.rows
  /-- The text is a single character. -/
  glyph : glyph.length = 1
  startCol : start.col < e.cols
  startRow : start.row < e.rows

/-- The first thing that is wrong with an extent, the text for a glyph and a start: nothing that is
looked at before it is wrong. -/
inductive FirstWrong (e : Extent) (glyph : String) (start : Cell) : Problem → Prop
  | emptyCanvas (h : e.cols = 0 ∨ e.rows = 0) : FirstWrong e glyph start (.emptyCanvas e)
  | badGlyph (hcols : 0 < e.cols) (hrows : 0 < e.rows) (h : glyph.length ≠ 1) :
      FirstWrong e glyph start (.badGlyph glyph)
  | startOutside (hcols : 0 < e.cols) (hrows : 0 < e.rows) (hglyph : glyph.length = 1)
      (h : e.cols ≤ start.col ∨ e.rows ≤ start.row) :
      FirstWrong e glyph start (.startOutside start e)

theorem not_empty {e : Extent} (hcols : 0 < e.cols) (hrows : 0 < e.rows) :
    ¬ (e.cols = 0 ∨ e.rows = 0) :=
  not_or.2 ⟨Nat.ne_of_gt hcols, Nat.ne_of_gt hrows⟩

theorem not_holds {e : Extent} {start : Cell} (h : e.cols ≤ start.col ∨ e.rows ≤ start.row) :
    ¬ e.Holds start := by
  rintro ⟨hcol, hrow⟩
  rcases h with h | h
  · exact absurd hcol (Nat.not_lt.2 h)
  · exact absurd hrow (Nat.not_lt.2 h)

/-- Either nothing is wrong, or something is wrong first. -/
theorem sensible_or_firstWrong (e : Extent) (glyph : String) (start : Cell) :
    Sensible e glyph start ∨ ∃ problem, FirstWrong e glyph start problem := by
  by_cases hempty : e.cols = 0 ∨ e.rows = 0
  · exact Or.inr ⟨_, .emptyCanvas hempty⟩
  obtain ⟨hcols, hrows⟩ := not_or.1 hempty
  have hcols' : 0 < e.cols := Nat.pos_of_ne_zero hcols
  have hrows' : 0 < e.rows := Nat.pos_of_ne_zero hrows
  by_cases hglyph : glyph.length = 1
  · by_cases hstart : e.cols ≤ start.col ∨ e.rows ≤ start.row
    · exact Or.inr ⟨_, .startOutside hcols' hrows' hglyph hstart⟩
    · obtain ⟨hcol, hrow⟩ := not_or.1 hstart
      exact Or.inl ⟨hcols', hrows', hglyph, Nat.lt_of_not_le hcol, Nat.lt_of_not_le hrow⟩
  · exact Or.inr ⟨_, .badGlyph hcols' hrows' hglyph⟩

/-! ## The single character -/

theorem single?_eq_some_iff {s : String} {g : Char} :
    single? s = some g ↔ s = String.singleton g := by
  have hs : s = String.singleton g ↔ s.toList = [g] := by
    rw [← String.toList_inj, String.toList_singleton]
  rw [hs]
  unfold single?
  split
  · next c hc => rw [hc, Option.some.injEq, List.singleton_inj]
  · next hother =>
    constructor
    · intro h
      cases h
    · intro h
      exact absurd h (hother g)

/-- A text of length one is a single character. -/
theorem length_eq_one_iff {s : String} : s.length = 1 ↔ ∃ g, single? s = some g := by
  rw [← String.length_toList, List.length_eq_one_iff]
  refine exists_congr fun g => ?_
  rw [single?_eq_some_iff, ← String.toList_inj, String.toList_singleton]

/-! ## The setup -/

variable {c : Choices} {p : Profile}

/-- The first thing wrong is what is said to be wrong. -/
theorem setupOf_of_firstWrong {problem : Problem}
    (h : FirstWrong (extentOf c p) p.glyph (startOf (extentOf c p) p) problem) :
    setupOf c p = .error problem := by
  unfold setupOf
  dsimp only
  cases h with
  | emptyCanvas h => rw [if_pos h]
  | badGlyph hcols hrows h =>
    have hnone : single? p.glyph = none := by
      rw [Option.eq_none_iff_forall_ne_some]
      intro g hg
      exact h (length_eq_one_iff.2 ⟨g, hg⟩)
    rw [if_neg (not_empty hcols hrows), hnone]
  | startOutside hcols hrows hglyph h =>
    obtain ⟨g, hg⟩ := length_eq_one_iff.1 hglyph
    rw [if_neg (not_empty hcols hrows), hg]
    dsimp only
    rw [if_neg (not_holds h)]

/-- Where nothing is wrong, the setup is what the two layers come to. -/
theorem setupOf_of_sensible
    (h : Sensible (extentOf c p) p.glyph (startOf (extentOf c p) p)) :
    ∃ g, p.glyph = .singleton g ∧
      setupOf c p = .ok ⟨extentOf c p, g, startOf (extentOf c p) p⟩ := by
  obtain ⟨g, hg⟩ := length_eq_one_iff.1 h.glyph
  have hinside : (extentOf c p).Holds (startOf (extentOf c p) p) := ⟨h.startCol, h.startRow⟩
  refine ⟨g, single?_eq_some_iff.1 hg, ?_⟩
  unfold setupOf
  dsimp only
  rw [if_neg (not_empty h.cols h.rows), hg]
  dsimp only
  rw [if_pos hinside]

/-! ## The settings -/

/-- The settings that two layers give once their setup is known. -/
def given (c : Choices) (p : Profile) (setup : Setup) : Settings where
  host := c.host.getD p.host
  port := c.port.getD p.port
  maxConnections := max 1 (c.maxConnections.getD p.maxConnections)
  setup := setup
  logLevel := c.logLevel.getD p.logLevel

theorem merge_of_sensible (h : Sensible (extentOf c p) p.glyph (startOf (extentOf c p) p)) :
    ∃ g, p.glyph = .singleton g ∧
      merge c p = .ok (given c p ⟨extentOf c p, g, startOf (extentOf c p) p⟩) := by
  obtain ⟨g, hg, hsetup⟩ := setupOf_of_sensible h
  refine ⟨g, hg, ?_⟩
  rw [merge, hsetup]
  rfl

theorem merge_of_firstWrong {problem : Problem}
    (h : FirstWrong (extentOf c p) p.glyph (startOf (extentOf c p) p) problem) :
    merge c p = .error problem := by
  rw [merge, setupOf_of_firstWrong h]
  rfl

/-- Layers give settings exactly if nothing is wrong with what they come to. -/
theorem exists_merge_eq_ok_iff :
    (∃ st, merge c p = .ok st) ↔
      Sensible (extentOf c p) p.glyph (startOf (extentOf c p) p) := by
  constructor
  · rintro ⟨st, hst⟩
    refine (sensible_or_firstWrong _ _ _).resolve_right ?_
    rintro ⟨problem, hwrong⟩
    rw [merge_of_firstWrong hwrong] at hst
    cases hst
  · intro h
    obtain ⟨g, -, hmerge⟩ := merge_of_sensible h
    exact ⟨_, hmerge⟩

/-- What is said to be wrong is the first thing wrong. -/
theorem merge_eq_error_iff {problem : Problem} :
    merge c p = .error problem ↔
      FirstWrong (extentOf c p) p.glyph (startOf (extentOf c p) p) problem := by
  refine ⟨fun h => ?_, merge_of_firstWrong⟩
  rcases sensible_or_firstWrong (extentOf c p) p.glyph (startOf (extentOf c p) p) with hs | hw
  · obtain ⟨g, -, hmerge⟩ := merge_of_sensible hs
    rw [hmerge] at h
    cases h
  · obtain ⟨problem', hwrong⟩ := hw
    rw [merge_of_firstWrong hwrong] at h
    cases h
    exact hwrong

/-- The settings that come out are the ones that the layers give. -/
theorem merge_eq_ok {st : Settings} (h : merge c p = .ok st) :
    p.glyph = .singleton st.setup.glyph ∧
      st = given c p ⟨extentOf c p, st.setup.glyph, startOf (extentOf c p) p⟩ := by
  obtain ⟨g, hg, hmerge⟩ := merge_of_sensible (exists_merge_eq_ok_iff.1 ⟨st, h⟩)
  rw [hmerge] at h
  cases h
  exact ⟨hg, rfl⟩

/-- The profile of a file that says all that settings say. -/
def profile (st : Settings) : Profile where
  host := st.host
  port := st.port
  maxConnections := st.maxConnections
  cols := st.setup.extent.cols
  rows := st.setup.extent.rows
  glyph := .singleton st.setup.glyph
  startCol := some st.setup.start.col
  startRow := some st.setup.start.row
  logLevel := st.logLevel

/-- Without any choice, a profile that was written down from settings gives these settings, if they
allow a session. -/
theorem given_profile {st : Settings} (h : 1 ≤ st.maxConnections) :
    given {} st.profile st.setup = st := by
  have hmax : max 1 st.maxConnections = st.maxConnections := Nat.max_eq_right h
  obtain ⟨host, port, maxConnections, setup, logLevel⟩ := st
  exact congrArg (Settings.mk host port · setup logLevel) hmax

/-- Settings that have come out of two layers come out of their own profile again. -/
theorem merge_profile {st : Settings} (h : merge c p = .ok st) : merge {} st.profile = .ok st := by
  have hsensible := exists_merge_eq_ok_iff.1 ⟨st, h⟩
  obtain ⟨hglyph, hst⟩ := merge_eq_ok h
  have hagain : Sensible (extentOf {} st.profile) st.profile.glyph
      (startOf (extentOf {} st.profile) st.profile) := by
    rw [hglyph] at hsensible
    rw [hst]
    exact hsensible
  obtain ⟨g, hg, hmerge⟩ := merge_of_sensible hagain
  have hsame : st.setup.glyph = g :=
    Option.some.inj ((single?_eq_some_iff.2 rfl).symm.trans (single?_eq_some_iff.2 hg))
  have hmax : 1 ≤ st.maxConnections := by
    rw [hst]
    exact Nat.le_max_left 1 _
  rw [hmerge, ← hsame]
  exact congrArg Except.ok (given_profile hmax)

/-- **What two layers come to.** Let the extent be the columns and rows that were chosen, or else
those of the file, and the start what the file says, or else the middle column and the row below the
middle of that extent, the lowest row if there is none below. Choices and profile give settings
exactly if the extent has a cell, the glyph is a single character and the start lies within the
extent; otherwise the first of the three that does not hold is what is said to be wrong, with the
values it is about. The settings have that extent, glyph and start, and for all else the choice or
else what the file says, with at least one session allowed. If the file says nothing of the start,
then it never lies outside. And settings come out of their own profile again when nothing is
chosen. -/
theorem merge_exact (c : Choices) (p : Profile) :
    let e : Extent := ⟨c.cols.getD p.cols, c.rows.getD p.rows⟩
    let start : Cell := ⟨p.startCol.getD (e.cols / 2), p.startRow.getD (e.rows / 2 - 1)⟩
    ((∃ st, merge c p = .ok st) ↔ Sensible e p.glyph start) ∧
      (∀ problem, merge c p = .error problem ↔ FirstWrong e p.glyph start problem) ∧
      (∀ st, merge c p = .ok st →
        st.setup.extent = e ∧ .singleton st.setup.glyph = p.glyph ∧ st.setup.start = start ∧
          st.host = c.host.getD p.host ∧ st.port = c.port.getD p.port ∧
          st.maxConnections = max 1 (c.maxConnections.getD p.maxConnections) ∧
          st.logLevel = c.logLevel.getD p.logLevel) ∧
      (p.startCol = none → p.startRow = none →
        ∀ s f, merge c p ≠ .error (.startOutside s f)) ∧
      ∀ st, merge c p = .ok st → merge {} st.profile = .ok st := by
  intro e start
  refine ⟨exists_merge_eq_ok_iff, fun problem => merge_eq_error_iff, fun st hst => ?_,
    fun hcol hrow s f herror => ?_, fun st => merge_profile⟩
  · obtain ⟨hglyph, hst⟩ := merge_eq_ok hst
    rw [hst]
    exact ⟨rfl, hglyph.symm, rfl, rfl, rfl, rfl, rfl⟩
  · have hmiddle : start = Setup.middle e := by
      simp only [start, hcol, hrow, Option.getD_none, Setup.middle]
    have hwrong : FirstWrong e p.glyph start (.startOutside s f) := merge_eq_error_iff.1 herror
    rw [hmiddle] at hwrong
    cases hwrong with
    | startOutside hcols hrows _ h => exact not_holds h (Setup.valid_centred hcols hrows)

/-- The least canvas there can be: its only row is the one where the pen is put down. -/
theorem merge_exact_least :
    let c : Choices := { cols := some 1, rows := some 1, maxConnections := some 0 }
    let st : Settings := ⟨"0.0.0.0", 8124, 1, ⟨⟨1, 1⟩, '*', ⟨0, 0⟩⟩, "info"⟩
    merge c .usual = .ok st ∧ (∀ s f, merge c .usual ≠ .error (.startOutside s f)) ∧
      merge {} st.profile = .ok st := by
  intro c st
  have h : merge c .usual = .ok st := by
    simp only [c, st]
    rfl
  obtain ⟨-, -, -, hstart, hagain⟩ := merge_exact c .usual
  exact ⟨h, hstart rfl rfl, hagain st h⟩

end Plotter.Settings
