import Mathlib.Logic.Relation
import Plotter.Proofs.Reading

/-!
# How a line is presented

What a line says does not depend on ends of lines in it, on blanks around it, or on the case of the
letters of ASCII (`Retouched`). That holds of commands and of the words that call none, although a
line is put into lower case by the rules of Unicode, by which a capital sigma looks at the letters
around it: whether a character is a cased letter, or one that case ignores, is the same of a letter
of ASCII and of its other case (`CaseBlind`), so that a sigma sees no difference.

Ends of lines are blanks. So it makes no difference whether they are removed before the blanks are
taken off both ends or after (`trim_filter`).
-/

namespace Plotter

open Text

namespace Text

/-! ## Properties that do not see the case of ASCII letters -/

/-- A property of characters is the same of a character and of its lower-case form in ASCII. -/
def CaseBlind (p : Char → Bool) : Prop := ∀ c, p c.toLower = p c

namespace CaseBlind

variable {p : Char → Bool}

/-- A property that all letters of ASCII have, or none, does not see their case. -/
theorem of_letters {b : Bool} (h : ∀ c : Char, c.isAlpha → p c = b) : CaseBlind p := by
  intro c
  rcases toLower_eq_or_isLower c with hself | ⟨hupper, hlower⟩
  · rw [hself]
  · rw [h c.toLower (Bool.or_eq_true_iff.2 (Or.inr hlower)),
      h c (Bool.or_eq_true_iff.2 (Or.inl hupper))]

theorem comp_toLower (hp : CaseBlind p) : p ∘ Char.toLower = p := funext hp

theorem filter_map (hp : CaseBlind p) (s : List Char) :
    (s.map Char.toLower).filter p = (s.filter p).map Char.toLower := by
  rw [List.filter_map, hp.comp_toLower]

theorem dropWhile_map (hp : CaseBlind p) (s : List Char) :
    (s.map Char.toLower).dropWhile p = (s.dropWhile p).map Char.toLower := by
  rw [List.dropWhile_map, hp.comp_toLower]

end CaseBlind

theorem caseBlind_isBlank : CaseBlind isBlank := .of_letters fun _ => not_isBlank_of_isAlpha

/-- All letters of ASCII are cased. -/
theorem caseBlind_cased : CaseBlind cased.contains := by
  refine .of_letters (b := true) fun c hc => ?_
  rw [CodeSet.contains_iff]
  rcases bounds_of_isAlpha hc with h | h
  · exact ⟨(0x41, 0x5A), by decide, h⟩
  · exact ⟨(0x61, 0x7A), by decide, h⟩

/-- No range of characters that case ignores reaches into the letters of ASCII. -/
theorem caseIgnorable_apart : ∀ r ∈ caseIgnorable,
    (r.2 < 0x41 ∨ 0x5A < r.1) ∧ (r.2 < 0x61 ∨ 0x7A < r.1) := by
  decide +kernel

/-- Case ignores no letter of ASCII. -/
theorem caseBlind_caseIgnorable : CaseBlind caseIgnorable.contains := by
  refine .of_letters (b := false) fun c hc => ?_
  by_contra hignored
  rw [Bool.not_eq_false, CodeSet.contains_iff] at hignored
  obtain ⟨r, hr, hlow, hhigh⟩ := hignored
  have hapart := caseIgnorable_apart r hr
  have hbounds := bounds_of_isAlpha hc
  omega

/-! ## The lower case of texts that differ in the case of ASCII letters -/

theorem casedBefore_toLower (before : Bool) (c : Char) :
    casedBefore before c.toLower = casedBefore before c := by
  rw [casedBefore, casedBefore, caseBlind_caseIgnorable, caseBlind_cased]

theorem startsCased_map_toLower (s : List Char) :
    startsCased (s.map Char.toLower) = startsCased s := by
  rw [startsCased, startsCased, caseBlind_caseIgnorable.dropWhile_map]
  cases s.dropWhile caseIgnorable.contains with
  | nil => rfl
  | cons c rest => exact caseBlind_cased c

/-- A small letter is its own lower-case form. -/
theorem toLower_of_isLower {c : Char} (h : c.isLower) : c.toLower = c := by
  rcases toLower_eq_or_isLower c with hself | ⟨hupper, -⟩
  · exact hself
  · have hhigh : c.toNat ≤ 0x5A := (of_decide_eq_true hupper).2
    have hlow : 0x61 ≤ c.toNat := of_decide_eq_true (Bool.and_eq_true_iff.1 h).1
    omega

theorem lowerAmong_toLower (before : Bool) (c : Char) (after : List Char) :
    lowerAmong before c.toLower (after.map Char.toLower) = lowerAmong before c after := by
  rcases toLower_eq_or_isLower c with hself | ⟨hupper, hlower⟩
  · rw [hself, lowerAmong, lowerAmong, startsCased_map_toLower]
  · rw [lowerAmong_of_ascii (toNat_lt_of_isAlpha (Bool.or_eq_true_iff.2 (Or.inr hlower))),
      lowerAmong_of_ascii (toNat_lt_of_isAlpha (Bool.or_eq_true_iff.2 (Or.inl hupper))),
      toLower_of_isLower hlower]

theorem lowerInto_map_toLower (before : Bool) (s : List Char) :
    lowerInto before [] (s.map Char.toLower) = lowerInto before [] s := by
  induction s generalizing before with
  | nil => rfl
  | cons c rest ih =>
    rw [List.map_cons, lowerInto_cons, lowerInto_cons, lowerAmong_toLower, casedBefore_toLower, ih]

/-- The lower case of Unicode does not see the case of ASCII letters. -/
theorem lower_map_toLower (s : List Char) : lower (s.map Char.toLower) = lower s :=
  lowerInto_map_toLower false s

theorem trimEnd_map_toLower (s : List Char) :
    trimEnd (s.map Char.toLower) = (trimEnd s).map Char.toLower := by
  rw [trimEnd, trimEnd, ← List.map_reverse, caseBlind_isBlank.dropWhile_map, List.map_reverse]

theorem trim_map_toLower (s : List Char) :
    trim (s.map Char.toLower) = (trim s).map Char.toLower := by
  rw [trim, trim, caseBlind_isBlank.dropWhile_map, trimEnd_map_toLower]

/-! ## Blanks -/

/-- A blank in front makes no difference to what is between the blanks. -/
theorem trim_cons_of_isBlank {c : Char} (h : isBlank c) (s : List Char) : trim (c :: s) = trim s := by
  rw [trim, trim, List.dropWhile_cons_of_pos h]

theorem trimEnd_concat_of_isBlank {c : Char} (h : isBlank c) (s : List Char) :
    trimEnd (s ++ [c]) = trimEnd s := by
  rw [trimEnd, trimEnd, List.reverse_concat, List.dropWhile_cons_of_pos h]

/-- A blank behind makes no difference either. -/
theorem trim_concat_of_isBlank {c : Char} (h : isBlank c) (s : List Char) :
    trim (s ++ [c]) = trim s := by
  rw [trim, trim, List.dropWhile_append]
  split
  · next hnil =>
    rw [List.isEmpty_iff.1 hnil, List.dropWhile_cons_of_pos h]
    rfl
  · exact trimEnd_concat_of_isBlank h _

variable {p : Char → Bool}

/-- If only blanks are removed, then they may be removed before the blanks in front are dropped. -/
theorem dropWhile_isBlank_filter (hp : ∀ c, p c = false → isBlank c) (s : List Char) :
    (s.filter p).dropWhile isBlank = (s.dropWhile isBlank).filter p := by
  induction s with
  | nil => rfl
  | cons c s ih =>
    cases hblank : isBlank c with
    | false =>
      have hkept : p c = true := by
        by_contra hremoved
        rw [Bool.not_eq_true] at hremoved
        rw [hp c hremoved] at hblank
        cases hblank
      rw [List.filter_cons_of_pos hkept, List.dropWhile_cons_of_neg (by simp [hblank]),
        List.dropWhile_cons_of_neg (by simp [hblank]), List.filter_cons_of_pos hkept]
    | true =>
      rw [List.dropWhile_cons_of_pos hblank, ← ih]
      cases hkept : p c with
      | true => rw [List.filter_cons_of_pos hkept, List.dropWhile_cons_of_pos hblank]
      | false => rw [List.filter_cons_of_neg (by simp [hkept])]

/-- If only blanks are removed, then it makes no difference whether they are removed before the
blanks are taken off both ends or after. -/
theorem trim_filter (hp : ∀ c, p c = false → isBlank c) (s : List Char) :
    trim (s.filter p) = (trim s).filter p := by
  rw [trim, trim, trimEnd, trimEnd, dropWhile_isBlank_filter hp, ← List.filter_reverse,
    dropWhile_isBlank_filter hp, List.filter_reverse]

end Text

/-! ## Lines that are presented in different ways -/

/-- A character is not of the end of a line. -/
def notEnding (c : Char) : Bool := c != '\r' && c != '\n'

theorem isBlank_of_notEnding_eq_false (c : Char) (h : notEnding c = false) : isBlank c := by
  have hc : c = '\r' ∨ c = '\n' := by
    unfold notEnding at h
    by_cases hcr : c = '\r'
    · exact Or.inl hcr
    · right
      simpa [hcr] using h
  rcases hc with rfl | rfl <;> decide

theorem caseBlind_notEnding : CaseBlind notEnding := by
  refine .of_letters (b := true) fun c hc => ?_
  by_contra hending
  rw [Bool.not_eq_true] at hending
  have hblank := isBlank_of_notEnding_eq_false c hending
  rw [not_isBlank_of_isAlpha hc] at hblank
  cases hblank

/-- A line has become another one that is presented in a different way. -/
inductive Retouched : List Char → List Char → Prop
  /-- A carriage return or a line feed has been put in somewhere. -/
  | ending (s t : List Char) {c : Char} (h : c = '\r' ∨ c = '\n') : Retouched (s ++ t) (s ++ c :: t)
  /-- A blank has been put in front. -/
  | before (s : List Char) {c : Char} (h : isBlank c) : Retouched s (c :: s)
  /-- A blank has been put behind. -/
  | behind (s : List Char) {c : Char} (h : isBlank c) : Retouched s (s ++ [c])
  /-- A letter of ASCII has changed its case somewhere. -/
  | letter (s t : List Char) {c d : Char} (h : c.toLower = d.toLower) :
      Retouched (s ++ c :: t) (s ++ d :: t)

/-- A line in its documented form: the blanks taken off both ends first, then carriage returns and
line feeds removed. -/
theorem bare_eq_filter_trim (s : List Char) : bare s = (trim s).filter notEnding :=
  trim_filter isBlank_of_notEnding_eq_false s

theorem bare_map_toLower (s : List Char) : bare (s.map Char.toLower) = (bare s).map Char.toLower := by
  rw [bare_eq_filter_trim, bare_eq_filter_trim, trim_map_toLower, caseBlind_notEnding.filter_map]

theorem normal_map_toLower (s : List Char) : normal (s.map Char.toLower) = normal s := by
  rw [normal_eq, normal_eq, bare_map_toLower, lower_map_toLower]

/-- Lines with the same bare form have the same form in lower case. -/
theorem normal_congr {s t : List Char} (h : bare s = bare t) : normal s = normal t := by
  rw [normal_eq, normal_eq, h]

/-- A line keeps its one form when it is presented in another way. -/
theorem Retouched.normal_eq {s t : List Char} (h : Retouched s t) : normal s = normal t := by
  cases h with
  | @ending s t c hc =>
    apply normal_congr
    have hremoved : notEnding c = false := by
      rcases hc with rfl | rfl <;> rfl
    show trim ((s ++ t).filter notEnding) = trim ((s ++ c :: t).filter notEnding)
    rw [List.filter_append, List.filter_append, List.filter_cons_of_neg (by simp [hremoved])]
  | before s hc =>
    apply normal_congr
    rw [bare_eq_filter_trim, bare_eq_filter_trim, trim_cons_of_isBlank hc]
  | behind s hc =>
    apply normal_congr
    rw [bare_eq_filter_trim, bare_eq_filter_trim, trim_concat_of_isBlank hc]
  | letter s t h =>
    rw [← normal_map_toLower, List.map_append, List.map_cons, h, ← List.map_cons, ← List.map_append,
      normal_map_toLower]

/-- **Presentation does not matter.** Lines that come out of each other by putting in or removing
carriage returns and line feeds anywhere and blanks at either end, and by changing the case of
letters of ASCII, in any number and order, say the same: the same command with the same number, or
nothing with the same word. And taking the blanks off both ends before carriage returns and line
feeds are removed, or after, gives every line the same form. -/
theorem Reading.ofLine_of_retouched :
    (∀ s t, Relation.EqvGen Retouched s t → Reading.ofLine s = Reading.ofLine t) ∧
    ∀ s, normal s = lower ((trim s).filter fun c => c != '\r' && c != '\n') := by
  refine ⟨fun s t h => ?_, fun s => ?_⟩
  · have hnormal : normal s = normal t := by
      induction h with
      | rel s t hst => exact hst.normal_eq
      | refl s => rfl
      | symm s t _ ih => exact ih.symm
      | trans s t u _ _ ihst ihtu => exact ihst.trans ihtu
    rw [Reading.ofLine, Reading.ofLine, hnormal]
  · rw [normal_eq, bare_eq_filter_trim]
    rfl

/-- A capital sigma before the end of a line and a letter: it is within the word, whatever the case
of the letters around it. -/
theorem Reading.ofLine_of_retouched_sigma :
    let s := ['A', 'Σ', 'b']
    let t := ['\u3000', 'A', 'Σ', '\n', 'B']
    Relation.EqvGen Retouched s t ∧ Reading.ofLine s = .unknown ['a', 'σ', 'b'] ∧
      Reading.ofLine t = .unknown ['a', 'σ', 'b'] := by
  intro s t
  have hcase : Retouched ['A', 'Σ', 'b'] ['A', 'Σ', 'B'] :=
    .letter ['A', 'Σ'] [] (by decide)
  have hending : Retouched ['A', 'Σ', 'B'] ['A', 'Σ', '\n', 'B'] :=
    .ending ['A', 'Σ'] ['B'] (Or.inr rfl)
  have hblank : Retouched ['A', 'Σ', '\n', 'B'] ['\u3000', 'A', 'Σ', '\n', 'B'] :=
    .before _ (by decide)
  have h : Relation.EqvGen Retouched s t :=
    .trans _ _ _ (.rel _ _ hcase) (.trans _ _ _ (.rel _ _ hending) (.rel _ _ hblank))
  have hword : Reading.ofLine s = .unknown ['a', 'σ', 'b'] := by decide +kernel
  exact ⟨h, hword, (Reading.ofLine_of_retouched.1 s t h).symm.trans hword⟩

end Plotter
