import Plotter.Connection
import Plotter.Proofs.Framing
import Plotter.Proofs.Script
import Plotter.Proofs.Text.Decoding

/-!
# Curtailment

Which lines may be run of lines that are too long to wait for their end, since what waits is dropped
when there is too much of it.

A line may be run whole, or without a first part that was dropped (`Curtailed`). There is one more
way, since a line may be dropped with the carriage return behind it: then its line feed is left over
and counts among the bytes of the next line, which may be dropped for that one byte. A line feed
that is left over is not read (`script_payloadLines_line_feed`), and apart from it every line feed
belongs to the end of a line (`Carried.eq_of_line_feed`).

Short lines are run whole (`Curtailed.exists_of_short`), unless they are behind a line that was
dropped whole (`Curtailed.exists_of_left`); of a line that is too long something is always dropped
(`Curtailed.exists_of_long`).
-/

namespace Plotter

open Text Framing

/-! ## A line feed before a line -/

/-- A line feed before a line is not read. -/
theorem Reading.ofLine_cons_newline (l : List Char) :
    Reading.ofLine ('\n' :: l) = Reading.ofLine l := by
  have hfilter : ('\n' :: l).filter (fun c => c != '\r' && c != '\n') =
      l.filter fun c => c != '\r' && c != '\n' := List.filter_cons_of_neg (by decide)
  unfold Reading.ofLine normal
  rw [hfilter]

/-- A line feed before a payload adds nothing to its script. -/
theorem script_payloadLines_line_feed (payload : List UInt8) :
    script (payloadLines (lf :: payload)) = script (payloadLines payload) := by
  have hread : ∀ l, Reading.ofLine (Utf8.lenient (lf :: l)) = Reading.ofLine (Utf8.lenient l) :=
    fun l => by
      have hdecoded : Utf8.lenient (lf :: l) = '\n' :: Utf8.lenient l :=
        Utf8.lenient_append_ascii [] l (by decide)
      rw [hdecoded, Reading.ofLine_cons_newline]
  have hunbroken : ∀ {l}, Unbroken cr lf l → Unbroken cr lf (lf :: l) := fun {l} hl hbroken => by
    rcases List.infix_cons_iff.mp hbroken with hprefix | hinfix
    · exact cr_ne_lf (List.cons_prefix_cons.mp hprefix).1
    · exact hl hinfix
  simp only [payloadLines_eq_map_lenient]
  induction payload using ending_induction cr lf with
  | unbroken s hs =>
    rw [breakAt_of_unbroken (hunbroken hs), breakAt_of_unbroken hs]
    exact script_cons_congr (hread s) []
  | ending a b ha _ =>
    rw [← List.cons_append, breakAt_cons_of_unbroken cr_ne_lf (hunbroken ha),
      breakAt_cons_of_unbroken cr_ne_lf ha]
    exact script_cons_congr (hread a) _

/-! ## The lines that may be run -/

namespace Framing

/-- The line feed of a line that was dropped without it. -/
def leftover : Bool → List UInt8
  | true => [lf]
  | false => []

theorem length_leftover (left : Bool) : (leftover left).length = left.toNat := by
  cases left <;> rfl

/-- The lines that may be run, of lines that arrive one behind the other. The flag says whether a
line feed is left over from the line before. -/
inductive Curtailed : Bool → List (List UInt8) → List (List UInt8) → Prop
  | nil {left : Bool} : Curtailed left [] []
  /-- A line is run whole. With its end it is no longer than what may wait and one read. -/
  | whole {left : Bool} {l : List UInt8} {ls ms : List (List UInt8)}
      (fits : l.length + 2 ≤ maxWaiting + readSize) (others : Curtailed false ls ms) :
      Curtailed left (l :: ls) (l :: ms)
  /-- The first part of a line is dropped, and the rest is run as a line of its own. -/
  | headless {left : Bool} {dropped rest : List UInt8} {ls ms : List (List UInt8)}
      (long : maxWaiting < left.toNat + dropped.length) (others : Curtailed false ls ms) :
      Curtailed left ((dropped ++ rest) :: ls) (rest :: ms)
  /-- A line is dropped with the carriage return behind it, and its line feed is left over. -/
  | swallowed {left : Bool} {l : List UInt8} {ls ms : List (List UInt8)}
      (long : maxWaiting < left.toNat + l.length + 1) (others : Curtailed true ls ms) :
      Curtailed left (l :: ls) ms

namespace Curtailed

variable {left : Bool} {l : List UInt8} {ls ms : List (List UInt8)}

/-- Lines may be run as if a line feed had been left over. -/
theorem of_false (h : Curtailed false ls ms) : Curtailed left ls ms := by
  cases h with
  | nil => exact nil
  | whole fits others => exact whole fits others
  | headless long others => exact headless (Nat.lt_of_lt_of_le long (by simp)) others
  | swallowed long others => exact swallowed (Nat.lt_of_lt_of_le long (by simp)) others

/-- There are lines that may be run, whatever the lines are: those that are too long may be dropped
up to their end. -/
theorem exists_curtailed (left : Bool) (ls : List (List UInt8)) : ∃ ms, Curtailed left ls ms := by
  induction ls generalizing left with
  | nil => exact ⟨[], nil⟩
  | cons l ls ih =>
    obtain ⟨ms, hms⟩ := ih false
    by_cases hfits : l.length + 2 ≤ maxWaiting + readSize
    · exact ⟨l :: ms, whole hfits hms⟩
    · have hlong : maxWaiting < left.toNat + l.length := by
        have hread : 2 ≤ readSize := by decide
        omega
      have hheadless : Curtailed left ((l ++ []) :: ls) ([] :: ms) := headless hlong hms
      rw [List.append_nil] at hheadless
      exact ⟨[] :: ms, hheadless⟩

/-- Lines that fit may all be run whole. -/
theorem append_whole {ks : List (List UInt8)} (hks : ∀ k ∈ ks, k.length + 2 ≤ maxWaiting + readSize)
    (h : Curtailed false ls ms) : Curtailed left (ks ++ ls) (ks ++ ms) := by
  induction ks generalizing left with
  | nil => exact h.of_false
  | cons k ks ih =>
    rw [List.forall_mem_cons] at hks
    exact whole hks.1 (ih hks.2)

/-- A part without a line feed that is too long may be dropped before any lines. -/
theorem dropped {d bytes : List UInt8} (hd : lf ∉ d) (hbytes : Carried bytes)
    (hlong : maxWaiting < left.toNat + d.length) (h : Curtailed false (terminatedLines bytes) ms) :
    Curtailed left (terminatedLines (d ++ bytes)) ms := by
  by_cases hu : Unbroken cr lf bytes
  · have hall : Unbroken cr lf (d ++ bytes) := by
      refine unbroken_of_not_mem (Or.inr ?_)
      rw [List.mem_append, not_or]
      exact ⟨hd, hbytes.not_mem hu⟩
    rw [terminatedLines_of_unbroken hu] at h
    rw [terminatedLines_of_unbroken hall]
    cases h
    exact nil
  · obtain ⟨l, b, rfl, hl⟩ := exists_ending_of_not_unbroken hu
    have hline : Unbroken cr lf (d ++ l) := by
      refine unbroken_of_not_mem (Or.inr ?_)
      rw [List.mem_append, not_or]
      exact ⟨hd, hbytes.left.not_mem hl⟩
    rw [terminatedLines_append_ending, breakAt_of_unbroken hl, List.singleton_append] at h
    rw [← List.append_assoc, terminatedLines_append_ending, breakAt_of_unbroken hline,
      List.singleton_append]
    cases h with
    | whole _ others => exact headless hlong others
    | @headless _ dropped rest _ _ _ others =>
      rw [← List.append_assoc]
      refine headless ?_ others
      rw [List.length_append]
      omega
    | swallowed _ others =>
      refine swallowed ?_ others
      rw [List.length_append]
      omega

/-! ### Short lines and long ones -/

/-- Before a line feed is left over, short lines are run whole. -/
theorem exists_of_short {ks : List (List UInt8)} (hks : ∀ k ∈ ks, k.length < maxWaiting)
    (h : Curtailed false (ks ++ ls) ms) : ∃ ms', ms = ks ++ ms' ∧ Curtailed false ls ms' := by
  induction ks generalizing ms with
  | nil => exact ⟨ms, rfl, h⟩
  | cons k ks ih =>
    rw [List.forall_mem_cons] at hks
    rw [List.cons_append] at h
    generalize hlines : k :: (ks ++ ls) = lines at h
    cases h with
    | nil => cases hlines
    | whole _ others =>
      obtain ⟨rfl, rfl⟩ := List.cons.inj hlines
      obtain ⟨ms', rfl, hrest⟩ := ih hks.2 others
      exact ⟨ms', rfl, hrest⟩
    | @headless _ dropped rest _ _ long others =>
      obtain ⟨rfl, -⟩ := List.cons.inj hlines
      have hshort := hks.1
      rw [List.length_append] at hshort
      rw [Bool.toNat_false] at long
      omega
    | swallowed long others =>
      obtain ⟨rfl, -⟩ := List.cons.inj hlines
      have hshort := hks.1
      rw [Bool.toNat_false] at long
      omega

/-- Short lines are run whole. -/
theorem eq_of_short (hls : ∀ l ∈ ls, l.length < maxWaiting) (h : Curtailed false ls ms) :
    ms = ls := by
  rw [← List.append_nil ls] at h
  obtain ⟨ms', rfl, hnil⟩ := h.exists_of_short hls
  cases hnil
  exact List.append_nil ls

/-- After a line feed is left over, short lines are run whole, but for some at the beginning that
are too long by that one byte. -/
theorem exists_of_left (hls : ∀ l ∈ ls, l.length < maxWaiting) (h : Curtailed true ls ms) :
    ∃ lost, ls = lost ++ ms ∧ ∀ l ∈ lost, l.length + 1 = maxWaiting := by
  induction ls with
  | nil =>
    cases h
    exact ⟨[], rfl, fun _ hl => absurd hl List.not_mem_nil⟩
  | cons l ls ih =>
    rw [List.forall_mem_cons] at hls
    generalize hlines : l :: ls = lines at h
    cases h with
    | nil => cases hlines
    | whole _ others =>
      obtain ⟨rfl, rfl⟩ := List.cons.inj hlines
      rw [others.eq_of_short hls.2]
      exact ⟨[], rfl, fun _ hl => absurd hl List.not_mem_nil⟩
    | @headless _ dropped rest _ _ long _ =>
      obtain ⟨rfl, -⟩ := List.cons.inj hlines
      have hshort := hls.1
      rw [List.length_append] at hshort
      rw [Bool.toNat_true] at long
      omega
    | swallowed long others =>
      obtain ⟨rfl, rfl⟩ := List.cons.inj hlines
      obtain ⟨lost, rfl, hlost⟩ := ih hls.2 others
      refine ⟨l :: lost, rfl, List.forall_mem_cons.mpr ⟨?_, hlost⟩⟩
      have hshort := hls.1
      rw [Bool.toNat_true] at long
      omega

/-- Of a line that is too long a first part is dropped. If all of it is, then it comes to an empty
line, and short lines at the beginning of the others may be lost with it. -/
theorem exists_of_long (hlong : maxWaiting + readSize < l.length + 2)
    (hls : ∀ l ∈ ls, l.length < maxWaiting) (h : Curtailed false (l :: ls) ms) :
    ∃ rest lost kept, rest <:+ l ∧ rest.length + maxWaiting < l.length ∧ ls = lost ++ kept ∧
      (∀ q ∈ lost, q.length + 1 = maxWaiting ∧ rest = []) ∧
      (ms = rest :: kept ∨ rest = [] ∧ ms = kept) := by
  have hread : 2 < readSize := by decide
  generalize hlines : l :: ls = lines at h
  cases h with
  | nil => cases hlines
  | whole fits _ =>
    obtain ⟨rfl, -⟩ := List.cons.inj hlines
    exact absurd fits (Nat.not_le_of_lt hlong)
  | @headless _ dropped rest _ ms' long others =>
    obtain ⟨rfl, rfl⟩ := List.cons.inj hlines
    refine ⟨rest, [], ls, List.suffix_append dropped rest, ?_, rfl,
      fun _ hq => absurd hq List.not_mem_nil, Or.inl ?_⟩
    · rw [Bool.toNat_false] at long
      rw [List.length_append]
      omega
    · rw [others.eq_of_short hls]
  | swallowed _ others =>
    obtain ⟨rfl, rfl⟩ := List.cons.inj hlines
    obtain ⟨lost, rfl, hlost⟩ := others.exists_of_left hls
    refine ⟨[], lost, ms, List.nil_suffix, ?_, rfl, fun q hq => ⟨hlost q hq, rfl⟩,
      Or.inr ⟨rfl, rfl⟩⟩
    rw [List.length_nil]
    omega

end Curtailed

/-- In a stream with a line feed left over before it, a line feed is either that one or belongs to
the end of a line. -/
theorem Carried.eq_of_line_feed {left : Bool} {bytes before after : List UInt8} (h : Carried bytes)
    (heq : leftover left ++ bytes = before ++ lf :: after) :
    (left = true ∧ before = [] ∧ bytes = after) ∨
      ∃ a, before = leftover left ++ (a ++ [cr]) ∧ bytes = a ++ cr :: lf :: after := by
  -- a line feed in the stream itself has a carriage return before it
  have hending : ∀ w, bytes = w ++ lf :: after →
      ∃ a, w = a ++ [cr] ∧ bytes = a ++ cr :: lf :: after := fun w hw => by
    obtain ⟨a, rfl⟩ := List.getLast?_eq_some_iff.mp (h w after hw)
    exact ⟨a, rfl, by rw [hw, List.append_assoc]; rfl⟩
  cases left with
  | false =>
    obtain ⟨a, rfl, hbytes⟩ := hending before heq
    exact Or.inr ⟨a, rfl, hbytes⟩
  | true =>
    cases before with
    | nil => exact Or.inl ⟨rfl, rfl, (List.cons.inj heq).2⟩
    | cons x before =>
      obtain ⟨rfl, hrest⟩ := List.cons.inj heq
      obtain ⟨a, rfl, hbytes⟩ := hending before hrest
      exact Or.inr ⟨a, rfl, hbytes⟩

end Framing

end Plotter
