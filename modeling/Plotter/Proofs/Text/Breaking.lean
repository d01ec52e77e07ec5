import Mathlib.Data.List.Induction
import Mathlib.Data.List.Infix
import Plotter.Text.Lines

/-!
# Breaking into lines

What `breakAt` does, told without the machine that does it. A sequence is unbroken if `cr` is
nowhere followed by `lf` in it (`Unbroken`). An unbroken sequence is one line
(`breakAt_of_unbroken`), and an ending divides a sequence into two that are broken apart from each
other (`breakAt_append_ending`); no pair of `cr` and `lf` can lie across an ending, since `cr` and
`lf` are not the same.

These two determine `breakAt`, for every sequence is either unbroken or an unbroken line, an ending
and a shorter sequence (`ending_induction`).
-/

namespace Plotter.Text

/-- The first place of an element divides a list in one way. -/
theorem append_cons_inj_of_not_mem {α : Type} {a : α} {x y u v : List α} (hx : a ∉ x) (hy : a ∉ y)
    (h : x ++ a :: u = y ++ a :: v) : x = y ∧ u = v := by
  rcases List.append_eq_append_iff.1 h with ⟨w, rfl, hw⟩ | ⟨w, rfl, hw⟩
  · cases w with
    | nil => exact ⟨(List.append_nil x).symm, (List.cons.inj hw).2⟩
    | cons b w =>
      obtain ⟨rfl, -⟩ := List.cons.inj hw
      simp at hy
  · cases w with
    | nil => exact ⟨List.append_nil y, (List.cons.inj hw).2.symm⟩
    | cons b w =>
      obtain ⟨rfl, -⟩ := List.cons.inj hw
      simp at hx

variable {α : Type} {cr lf : α}

/-- Nowhere in the sequence is `cr` followed by `lf`. -/
def Unbroken (cr lf : α) (s : List α) : Prop := ¬ [cr, lf] <:+: s

theorem unbroken_nil (cr lf : α) : Unbroken cr lf [] :=
  fun h => List.cons_ne_nil cr [lf] (List.infix_nil.1 h)

theorem Unbroken.left {a b : List α} (h : Unbroken cr lf (a ++ b)) : Unbroken cr lf a :=
  fun ha => h (List.infix_append_of_infix_left ha)

theorem Unbroken.right {a b : List α} (h : Unbroken cr lf (a ++ b)) : Unbroken cr lf b :=
  fun hb => h (List.infix_append_of_infix_right hb)

/-- A sequence with an ending in it is not unbroken. -/
theorem not_unbroken_append_ending (a b : List α) : ¬ Unbroken cr lf (a ++ cr :: lf :: b) := by
  intro h
  exact h ⟨a, b, by simp⟩

/-- Without a `cr`, or without an `lf`, there is no ending. -/
theorem unbroken_of_not_mem {s : List α} (h : cr ∉ s ∨ lf ∉ s) : Unbroken cr lf s := by
  intro hs
  have hcr : cr ∈ s := hs.subset List.mem_cons_self
  have hlf : lf ∈ s := hs.subset (List.mem_cons_of_mem cr List.mem_cons_self)
  rcases h with h | h
  · exact h hcr
  · exact h hlf

/-- One more element completes an ending if it is an `lf` behind a `cr`. -/
theorem ending_suffix_concat_iff {s : List α} {x : α} :
    [cr, lf] <:+ s ++ [x] ↔ x = lf ∧ s.getLast? = some cr := by
  constructor
  · rintro ⟨t, ht⟩
    have ht' : (t ++ [cr]) ++ [lf] = s ++ [x] := by simpa using ht
    obtain ⟨rfl, hx⟩ := List.append_inj' ht' rfl
    exact ⟨(List.singleton_inj.1 hx).symm, by simp⟩
  · rintro ⟨rfl, hs⟩
    obtain ⟨t, rfl⟩ := List.getLast?_eq_some_iff.1 hs
    exact ⟨t, by simp⟩

/-- One more element breaks a sequence only if it completes an ending. -/
theorem unbroken_concat {s : List α} {x : α} :
    Unbroken cr lf (s ++ [x]) ↔ Unbroken cr lf s ∧ ¬ (x = lf ∧ s.getLast? = some cr) := by
  rw [Unbroken, List.infix_concat_iff, ending_suffix_concat_iff, not_or]
  exact and_comm

/-- What is broken has a first ending. -/
theorem exists_ending_of_not_unbroken {s : List α} (h : ¬ Unbroken cr lf s) :
    ∃ a b, s = a ++ cr :: lf :: b ∧ Unbroken cr lf a := by
  induction s using List.reverseRecOn with
  | nil => exact absurd (unbroken_nil cr lf) h
  | append_singleton s x ih =>
    by_cases hs : Unbroken cr lf s
    · rw [unbroken_concat, not_and_not_right] at h
      obtain ⟨rfl, hcr⟩ := h hs
      obtain ⟨a, rfl⟩ := List.getLast?_eq_some_iff.1 hcr
      exact ⟨a, [], by simp, hs.left⟩
    · obtain ⟨a, b, rfl, ha⟩ := ih hs
      exact ⟨a, b ++ [x], by simp, ha⟩

/-- Every sequence is unbroken, or begins with an unbroken line and its ending. -/
theorem ending_induction (cr lf : α) {P : List α → Prop} (unbroken : ∀ s, Unbroken cr lf s → P s)
    (ending : ∀ a b, Unbroken cr lf a → P b → P (a ++ cr :: lf :: b)) (s : List α) : P s := by
  induction hn : s.length using Nat.strongRecOn generalizing s with
  | _ n ih =>
    by_cases hs : Unbroken cr lf s
    · exact unbroken s hs
    · obtain ⟨a, b, rfl, ha⟩ := exists_ending_of_not_unbroken hs
      have hlt : b.length < n := by
        rw [← hn, List.length_append, List.length_cons, List.length_cons]
        omega
      exact ending a b ha (ih b.length hlt b rfl)

/-- In an unbroken sequence, no element completes an ending. -/
theorem Unbroken.not_ending {begun s : List α} {x : α}
    (h : Unbroken cr lf (begun.reverse ++ x :: s)) : ¬ (x = lf ∧ begun.head? = some cr) := by
  rintro ⟨rfl, hcr⟩
  obtain ⟨before, rfl⟩ := List.head?_eq_some_iff.1 hcr
  rw [List.reverse_cons, List.append_assoc, List.singleton_append] at h
  exact not_unbroken_append_ending _ _ h

/-! ## The machine -/

variable [DecidableEq α]

/-- An element that completes no ending is added to the line begun. -/
theorem breakInto_cons {begun : List α} {x : α} (h : ¬ (x = lf ∧ begun.head? = some cr))
    (done : List (List α)) (s : List α) :
    breakInto cr lf done begun (x :: s) = breakInto cr lf done (x :: begun) s := by
  cases begun with
  | nil => rfl
  | cons y before =>
    have hxy : ¬ (x = lf ∧ y = cr) := fun hxy => h ⟨hxy.1, by rw [hxy.2, List.head?_cons]⟩
    simp only [breakInto, if_neg hxy]

/-- An unbroken sequence is added to the line begun as it is. -/
theorem breakInto_append_of_unbroken {begun a : List α}
    (h : Unbroken cr lf (begun.reverse ++ a)) (b : List α) :
    breakInto cr lf [] begun (a ++ b) = breakInto cr lf [] (a.reverse ++ begun) b := by
  induction a generalizing begun with
  | nil => rfl
  | cons x a ih =>
    have ha : Unbroken cr lf ((x :: begun).reverse ++ a) := by
      rw [List.reverse_cons, List.append_assoc]
      exact h
    rw [List.cons_append, breakInto_cons h.not_ending, ih ha, List.reverse_cons,
      List.append_assoc, List.singleton_append]

/-- An unbroken sequence is one line. -/
theorem breakAt_of_unbroken {s : List α} (h : Unbroken cr lf s) : breakAt cr lf s = [s] := by
  have hs : breakInto cr lf [] [] (s ++ []) = breakInto cr lf [] (s.reverse ++ []) [] :=
    breakInto_append_of_unbroken h []
  rw [List.append_nil, List.append_nil] at hs
  rw [breakAt, hs, breakInto, List.reverse_reverse]
  rfl

/-- The first ending ends the first line. -/
theorem breakAt_cons_of_unbroken (hne : cr ≠ lf) {a : List α} (h : Unbroken cr lf a)
    (b : List α) : breakAt cr lf (a ++ cr :: lf :: b) = a :: breakAt cr lf b := by
  have ha : breakInto cr lf [] [] (a ++ cr :: lf :: b) =
      breakInto cr lf [] (a.reverse ++ []) (cr :: lf :: b) := breakInto_append_of_unbroken h _
  rw [List.append_nil] at ha
  have hcr : ¬ (cr = lf ∧ a.reverse.head? = some cr) := fun hcr => hne hcr.1
  rw [breakAt, ha, breakInto_cons hcr]
  simp only [breakInto, and_self, if_true]
  rw [breakInto_eq, List.reverse_reverse]
  rfl

/-! ## What breaking amounts to -/

/-- An ending divides a sequence into two that are broken apart from each other. -/
theorem breakAt_append_ending (hne : cr ≠ lf) (a b : List α) :
    breakAt cr lf (a ++ cr :: lf :: b) = breakAt cr lf a ++ breakAt cr lf b := by
  induction a using ending_induction cr lf with
  | unbroken a ha => rw [breakAt_cons_of_unbroken hne ha, breakAt_of_unbroken ha]; rfl
  | ending a a' ha ih =>
    rw [List.append_assoc, List.cons_append, List.cons_append, breakAt_cons_of_unbroken hne ha, ih,
      breakAt_cons_of_unbroken hne ha, List.cons_append]

/-- There is always at least one line. -/
theorem breakAt_ne_nil (hne : cr ≠ lf) (s : List α) : breakAt cr lf s ≠ [] := by
  induction s using ending_induction cr lf with
  | unbroken s hs => simp [breakAt_of_unbroken hs]
  | ending a b ha _ => simp [breakAt_cons_of_unbroken hne ha]

/-- No line has an ending in it. -/
theorem unbroken_of_mem_breakAt (hne : cr ≠ lf) {s l : List α} (h : l ∈ breakAt cr lf s) :
    Unbroken cr lf l := by
  induction s using ending_induction cr lf with
  | unbroken s hs =>
    rw [breakAt_of_unbroken hs, List.mem_singleton] at h
    rw [h]
    exact hs
  | ending a b ha ih =>
    rw [breakAt_cons_of_unbroken hne ha] at h
    rcases List.mem_cons.1 h with rfl | h
    · exact ha
    · exact ih h

/-- No line is longer than the sequence. -/
theorem length_le_of_mem_breakAt (hne : cr ≠ lf) {s l : List α} (h : l ∈ breakAt cr lf s) :
    l.length ≤ s.length := by
  induction s using ending_induction cr lf with
  | unbroken s hs =>
    rw [breakAt_of_unbroken hs, List.mem_singleton] at h
    rw [h]
  | ending a b ha ih =>
    rw [breakAt_cons_of_unbroken hne ha, List.mem_cons] at h
    rw [List.length_append, List.length_cons, List.length_cons]
    rcases h with rfl | h
    · exact Nat.le_add_right _ _
    · exact Nat.le_add_left_of_le (Nat.le_add_right_of_le (Nat.le_add_right_of_le (ih h)))

/-- The lines with endings between them are the sequence. -/
theorem intercalate_breakAt (hne : cr ≠ lf) (s : List α) :
    [cr, lf].intercalate (breakAt cr lf s) = s := by
  induction s using ending_induction cr lf with
  | unbroken s hs =>
    rw [breakAt_of_unbroken hs]
    simp [List.intercalate]
  | ending a b ha ih =>
    obtain ⟨l, ls, hb⟩ := List.exists_cons_of_ne_nil (breakAt_ne_nil hne b)
    rw [hb] at ih
    rw [breakAt_cons_of_unbroken hne ha, hb]
    simpa [List.intercalate, List.intersperse] using ih

/-- The number of endings in a sequence: of the places where `cr` is followed by `lf`. -/
def endingCount (cr lf : α) (s : List α) : Nat := s.tails.countP ([cr, lf] <+: ·)

theorem endingCount_cons (cr lf x : α) (s : List α) :
    endingCount cr lf (x :: s) =
      endingCount cr lf s + if [cr, lf] <+: x :: s then 1 else 0 := by
  simp [endingCount, List.countP_cons]

/-- There is no ending in an unbroken sequence. -/
theorem endingCount_of_unbroken {s : List α} (h : Unbroken cr lf s) : endingCount cr lf s = 0 := by
  refine List.countP_eq_zero.2 fun t ht hprefix => h ?_
  have hsuffix : t <:+ s := (List.mem_tails t s).1 ht
  exact (of_decide_eq_true hprefix).isInfix.trans hsuffix.isInfix

/-- An ending counts once, and no other pair of `cr` and `lf` comes about by it. -/
theorem endingCount_append_ending (hne : cr ≠ lf) (a b : List α) :
    endingCount cr lf (a ++ cr :: lf :: b) = endingCount cr lf a + 1 + endingCount cr lf b := by
  induction a with
  | nil =>
    have hcr : [cr, lf] <+: cr :: lf :: b := ⟨b, rfl⟩
    have hlf : ¬ [cr, lf] <+: lf :: b := fun h => hne (List.cons_prefix_cons.1 h).1
    rw [List.nil_append, endingCount_cons, endingCount_cons, if_pos hcr, if_neg hlf,
      endingCount_of_unbroken (unbroken_nil cr lf)]
    omega
  | cons x a ih =>
    have hsame : [cr, lf] <+: x :: (a ++ cr :: lf :: b) ↔ [cr, lf] <+: x :: a := by
      cases a with
      | nil => simp [List.cons_prefix_cons, hne.symm]
      | cons y a => simp [List.cons_prefix_cons]
    rw [List.cons_append, endingCount_cons, ih, endingCount_cons]
    simp only [hsame]
    omega

/-- Every ending makes one more line. -/
theorem length_breakAt (hne : cr ≠ lf) (s : List α) :
    (breakAt cr lf s).length = endingCount cr lf s + 1 := by
  induction s using ending_induction cr lf with
  | unbroken s hs => rw [breakAt_of_unbroken hs, endingCount_of_unbroken hs, List.length_singleton]
  | ending a b ha ih =>
    rw [breakAt_cons_of_unbroken hne ha, List.length_cons, ih, endingCount_append_ending hne,
      endingCount_of_unbroken ha]
    omega

/-- Terminated lines without endings of their own are broken into themselves, whatever follows. -/
theorem lines_terminate_append {ls : List (List Char)} (h : ∀ l ∈ ls, Unbroken '\r' '\n' l)
    (s : List Char) : lines (terminate ls ++ s) = ls ++ lines s := by
  induction ls with
  | nil => rfl
  | cons l ls ih =>
    have hl : Unbroken '\r' '\n' l := h l List.mem_cons_self
    have hls : lines (terminate ls ++ s) = ls ++ lines s :=
      ih fun m hm => h m (List.mem_cons_of_mem l hm)
    have hcut : terminate (l :: ls) ++ s = l ++ '\r' :: '\n' :: (terminate ls ++ s) := by
      simp [crlf]
    rw [lines, hcut, breakAt_cons_of_unbroken (by decide) hl]
    exact congrArg (l :: ·) hls

/-- Terminated lines without endings of their own are broken into themselves, with an empty line
behind the last ending. -/
theorem lines_terminate {ls : List (List Char)} (h : ∀ l ∈ ls, Unbroken '\r' '\n' l) :
    lines (terminate ls) = ls ++ [[]] := by
  have hall := lines_terminate_append h []
  have hempty : lines [] = [[]] := breakAt_of_unbroken (unbroken_nil '\r' '\n')
  rwa [List.append_nil, hempty] at hall

end Plotter.Text
