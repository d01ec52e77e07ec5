import Mathlib.Data.List.Basic
import Plotter.Text.Blank
import Plotter.Text.Lowercase

/-!
# Lower case, ASCII and blanks

What lower-casing makes of characters beyond ASCII, as far as it concerns words that are spelt in
ASCII. Two such characters leave ASCII letters behind: the sign for kelvin becomes a `k`, and the
dotted capital I an `i` with a mark over it. All others become one character beyond ASCII again
(`lowerChar_of_beyond`), which is read off the bounds of every run of the table (`lowerRuns_shift`).
So a character beyond ASCII always leaves a trace: a `k`, or a character that is not ASCII
(`exists_trace_of_beyond`). Blanks stay as they are, and nothing else becomes one
(`keptByCase_isBlank`); this too is read off the table (`blanks_apart`).

From this follows where runs of characters end in a text in lower case, and what they are, for every
property that case keeps (`KeptByCase.dropWhile_lowerInto`,
`KeptByCase.takeWhile_lowerInto_eq_iff`).
-/

namespace Plotter.Text

/-! ## The letters of ASCII -/

/-- A character is its own lower-case form, or it is a capital and that is a small letter. -/
theorem toLower_eq_or_isLower (c : Char) : c.toLower = c ∨ c.isUpper ∧ c.toLower.isLower := by
  unfold Char.toLower
  split
  · next hupper =>
    right
    refine ⟨decide_eq_true hupper, ?_⟩
    have hlow : 65 ≤ c.toNat := hupper.1
    have hhigh : c.toNat ≤ 90 := hupper.2
    have hval : (c.val + 32).toNat = c.toNat + 32 := by
      rw [UInt32.toNat_add, Char.toNat_val]
      exact Nat.mod_eq_of_lt (by simp; omega)
    refine Bool.and_eq_true_iff.2 ⟨decide_eq_true ?_, decide_eq_true ?_⟩
    · show 97 ≤ (c.val + 32).toNat
      omega
    · show (c.val + 32).toNat ≤ 122
      omega
  · exact Or.inl rfl

/-- Only letters become small letters. -/
theorem isAlpha_of_isLower_toLower {c : Char} (h : c.toLower.isLower) : c.isAlpha := by
  rcases toLower_eq_or_isLower c with hc | ⟨hc, -⟩
  · rw [hc] at h
    exact Bool.or_eq_true_iff.2 (Or.inr h)
  · exact Bool.or_eq_true_iff.2 (Or.inl hc)

/-- The code points of letters. -/
theorem bounds_of_isAlpha {c : Char} (h : c.isAlpha) :
    0x41 ≤ c.toNat ∧ c.toNat ≤ 0x5A ∨ 0x61 ≤ c.toNat ∧ c.toNat ≤ 0x7A := by
  rcases Bool.or_eq_true_iff.1 h with hupper | hlower
  · exact Or.inl (of_decide_eq_true hupper)
  · obtain ⟨hlow, hhigh⟩ := Bool.and_eq_true_iff.1 hlower
    exact Or.inr ⟨of_decide_eq_true hlow, of_decide_eq_true hhigh⟩

/-- All letters are in ASCII. -/
theorem toNat_lt_of_isAlpha {c : Char} (h : c.isAlpha) : c.toNat < 0x80 := by
  have hbounds := bounds_of_isAlpha h
  omega

/-! ## The table -/

/-- But for the sign for kelvin, every run is shifted to characters beyond ASCII, none of them a
surrogate. -/
theorem lowerRuns_shift : ∀ r ∈ lowerRuns,
    r = ⟨0x212A, 0x212A, 1, -8383⟩ ∨
      0x80 ≤ r.first + r.shift ∧
        (r.last + r.shift < 0xD800 ∨ 0xE000 ≤ r.first + r.shift ∧ r.last + r.shift < 0x110000) := by
  decide +kernel

/-- A code point beyond ASCII that is none of a surrogate is that of its character. -/
theorem toNat_ofNat_of_valid {n : Nat} (h : n < 0xD800 ∨ 0xE000 ≤ n ∧ n < 0x110000) :
    (Char.ofNat n).toNat = n := by
  have hvalid : n.isValidChar := by
    unfold Nat.isValidChar
    omega
  rw [Char.ofNat, dif_pos hvalid]
  rfl

/-- The lower-case form of a character of a run is at the distance that the run says. -/
theorem toNat_ofNat_of_contains {r : CaseRun} (hr : r ∈ lowerRuns) {c : Char}
    (hc : r.contains c.toNat) :
    (r.first ≤ c.toNat ∧ c.toNat ≤ r.last) ∧
      ((Char.ofNat (c.toNat + r.shift).toNat).toNat : Int) = c.toNat + r.shift := by
  simp only [CaseRun.contains, Bool.and_eq_true, decide_eq_true_eq] at hc
  obtain ⟨hbounds, -⟩ := hc
  refine ⟨hbounds, ?_⟩
  rcases lowerRuns_shift r hr with rfl | ⟨hlow, hhigh⟩
  · have hkelvin : c.toNat = 0x212A := Nat.le_antisymm hbounds.2 hbounds.1
    simp only [hkelvin]
    rfl
  · rw [toNat_ofNat_of_valid (by omega)]
    omega

/-- A character beyond ASCII is its own lower-case form, or is the dotted capital I, or belongs to a
run. -/
theorem lowerChar_cases {c : Char} (h : 0x80 ≤ c.toNat) :
    lowerChar c = [c] ∨ c = 'İ' ∧ lowerChar c = ['i', '\u0307'] ∨
      ∃ r ∈ lowerRuns, (r.first ≤ c.toNat ∧ c.toNat ≤ r.last) ∧
        ∃ d, lowerChar c = [d] ∧ (d.toNat : Int) = c.toNat + r.shift := by
  unfold lowerChar
  rw [if_neg (by omega)]
  split
  · next hI => exact Or.inr (Or.inl ⟨hI, rfl⟩)
  · split
    · next r hr =>
      have hmem := List.mem_of_find?_eq_some hr
      have hcontains : r.contains c.toNat := by simpa using List.find?_some hr
      obtain ⟨hbounds, hshift⟩ := toNat_ofNat_of_contains hmem hcontains
      exact Or.inr (Or.inr ⟨r, hmem, hbounds, _, rfl, hshift⟩)
    · exact Or.inl rfl

/-- What becomes of a character beyond ASCII. -/
theorem lowerChar_of_beyond {c : Char} (h : 0x80 ≤ c.toNat) :
    lowerChar c = ['k'] ∨ lowerChar c = ['i', '\u0307'] ∨
      ∃ d, lowerChar c = [d] ∧ 0x80 ≤ d.toNat := by
  obtain hself | ⟨-, hI⟩ | ⟨r, hr, hbounds, d, hd, hshift⟩ := lowerChar_cases h
  · exact Or.inr (Or.inr ⟨c, hself, h⟩)
  · exact Or.inr (Or.inl hI)
  · rcases lowerRuns_shift r hr with rfl | ⟨hlow, -⟩
    · left
      have hk : d.toNat = 'k'.toNat := by
        simp only at hbounds hshift
        show d.toNat = 0x6B
        omega
      rw [hd, ← Char.ofNat_toNat d, hk]
      rfl
    · exact Or.inr (Or.inr ⟨d, hd, by omega⟩)

/-! ## Among neighbours -/

theorem lowerAmong_of_ascii {c : Char} (h : c.toNat < 0x80) (before : Bool) (after : List Char) :
    lowerAmong before c after = [c.toLower] := by
  have hne : c ≠ 'Σ' := by
    rintro rfl
    revert h
    decide
  rw [lowerAmong, if_neg hne, lowerChar, if_pos h]

/-- What becomes of a character beyond ASCII among its neighbours. -/
theorem lowerAmong_of_beyond {c : Char} (h : 0x80 ≤ c.toNat) (before : Bool) (after : List Char) :
    lowerAmong before c after = ['k'] ∨ lowerAmong before c after = ['i', '\u0307'] ∨
      ∃ d, lowerAmong before c after = [d] ∧ 0x80 ≤ d.toNat := by
  unfold lowerAmong
  split
  · right
    right
    split
    · exact ⟨'ς', rfl, by decide⟩
    · exact ⟨'σ', rfl, by decide⟩
  · exact lowerChar_of_beyond h

/-- Something is left of every character. -/
theorem lowerAmong_ne_nil (before : Bool) (c : Char) (after : List Char) :
    lowerAmong before c after ≠ [] := by
  by_cases hc : c.toNat < 0x80
  · rw [lowerAmong_of_ascii hc]
    exact List.cons_ne_nil _ _
  · obtain h | h | ⟨d, h, -⟩ := lowerAmong_of_beyond (Nat.le_of_not_lt hc) before after <;>
      rw [h] <;> exact List.cons_ne_nil _ _

/-- A character beyond ASCII leaves a `k` or another character beyond ASCII behind. -/
theorem exists_trace_of_beyond {c : Char} (h : 0x80 ≤ c.toNat) (before : Bool) (after : List Char) :
    ∃ d ∈ lowerAmong before c after, d = 'k' ∨ 0x80 ≤ d.toNat := by
  obtain h | h | ⟨d, h, hd⟩ := lowerAmong_of_beyond h before after <;> rw [h]
  · exact ⟨'k', by simp, Or.inl rfl⟩
  · exact ⟨'\u0307', by simp, Or.inr (by decide)⟩
  · exact ⟨d, by simp, Or.inr hd⟩

/-! ## Characters that case does not touch -/

/-- A character of ASCII that is not a letter. -/
def Plain (c : Char) : Prop := c.toNat < 0x80 ∧ c.isAlpha = false

instance (c : Char) : Decidable (Plain c) :=
  inferInstanceAs (Decidable (c.toNat < 0x80 ∧ c.isAlpha = false))

theorem toLower_of_plain {c : Char} (h : Plain c) : c.toLower = c := by
  rcases toLower_eq_or_isLower c with hself | ⟨hupper, -⟩
  · exact hself
  · have hletter : c.isAlpha = true := Bool.or_eq_true_iff.2 (Or.inl hupper)
    rw [h.2] at hletter
    cases hletter

/-- No other character of ASCII becomes a plain one. -/
theorem toLower_of_plain_toLower {c : Char} (h : Plain c.toLower) : c.toLower = c := by
  rcases toLower_eq_or_isLower c with hself | ⟨-, hlower⟩
  · exact hself
  · have hletter : c.toLower.isAlpha = true := Bool.or_eq_true_iff.2 (Or.inr hlower)
    rw [h.2] at hletter
    cases hletter

/-- Of texts in ASCII, one of plain characters is the lower-case form of itself alone. -/
theorem map_toLower_eq_iff_of_plain {t w : List Char} (hw : ∀ d ∈ w, Plain d) :
    (∀ c ∈ t, c.toNat < 0x80) ∧ t.map Char.toLower = w ↔ t = w := by
  have hself : (∀ c ∈ t, c.toLower = c) → t.map Char.toLower = t := by
    intro h
    exact (List.map_congr_left h).trans (List.map_id t)
  constructor
  · rintro ⟨-, rfl⟩
    refine (hself fun c hc => ?_).symm
    exact toLower_of_plain_toLower (hw _ (List.mem_map_of_mem hc))
  · rintro rfl
    exact ⟨fun c hc => (hw c hc).1, hself fun c hc => toLower_of_plain (hw c hc)⟩

/-! ## Blanks -/

/-- No blank is a visible character of ASCII, no blank is in the table, and none comes out of it. -/
theorem blanks_apart : ∀ b ∈ blanks,
    (b.2 ≤ 0x20 ∨ 0x80 ≤ b.1) ∧
      ∀ r ∈ lowerRuns, (b.2 < r.first ∨ r.last < b.1) ∧
        (b.2 < r.first + r.shift ∨ r.last + r.shift < b.1) := by
  decide +kernel

theorem isBlank_iff {c : Char} :
    isBlank c = true ↔ ∃ b ∈ blanks, b.1 ≤ c.toNat ∧ c.toNat ≤ b.2 :=
  CodeSet.contains_iff

/-- Visible characters of ASCII are no blanks. -/
theorem not_isBlank_of_visible {c : Char} (hlow : 0x20 < c.toNat) (hhigh : c.toNat < 0x80) :
    isBlank c = false := by
  by_contra hblank
  rw [Bool.not_eq_false, isBlank_iff] at hblank
  obtain ⟨b, hb, hfirst, hlast⟩ := hblank
  have hapart := (blanks_apart b hb).1
  omega

/-- Letters of ASCII are no blanks. -/
theorem not_isBlank_of_isAlpha {c : Char} (h : c.isAlpha) : isBlank c = false := by
  have hbounds := bounds_of_isAlpha h
  exact not_isBlank_of_visible (by omega) (by omega)

/-- A blank stays as it is. -/
theorem lowerAmong_of_isBlank {c : Char} (h : isBlank c) (before : Bool) (after : List Char) :
    lowerAmong before c after = [c] := by
  by_cases hc : c.toNat < 0x80
  · rw [lowerAmong_of_ascii hc, toLower_of_plain ⟨hc, ?_⟩]
    by_contra hletter
    rw [not_isBlank_of_isAlpha (eq_true_of_ne_false hletter)] at h
    cases h
  · have hsigma : c ≠ 'Σ' := by
      rintro rfl
      exact absurd h (by decide)
    rw [lowerAmong, if_neg hsigma]
    obtain hself | ⟨rfl, -⟩ | ⟨r, hr, hbounds, -⟩ := lowerChar_cases (Nat.le_of_not_lt hc)
    · exact hself
    · exact absurd h (by decide)
    · obtain ⟨b, hb, hblank⟩ := isBlank_iff.1 h
      have := ((blanks_apart b hb).2 r hr).1
      omega

/-- Only a blank becomes a blank. -/
theorem not_isBlank_of_mem_lowerAmong {c d : Char} (h : isBlank c = false) {before : Bool}
    {after : List Char} (hd : d ∈ lowerAmong before c after) : isBlank d = false := by
  by_cases hc : c.toNat < 0x80
  · rw [lowerAmong_of_ascii hc, List.mem_singleton] at hd
    subst hd
    rcases toLower_eq_or_isLower c with hlower | ⟨-, hlower⟩
    · rwa [hlower]
    · exact not_isBlank_of_isAlpha (Bool.or_eq_true_iff.2 (Or.inr hlower))
  · unfold lowerAmong at hd
    split at hd
    · split at hd <;> rw [List.mem_singleton] at hd <;> subst hd <;> decide
    · obtain hself | ⟨-, hI⟩ | ⟨r, hr, hbounds, e, he, hshift⟩ :=
        lowerChar_cases (Nat.le_of_not_lt hc)
      · rw [hself, List.mem_singleton] at hd
        rwa [hd]
      · rw [hI, List.mem_cons, List.mem_singleton] at hd
        rcases hd with rfl | rfl <;> decide
      · rw [he, List.mem_singleton] at hd
        subst hd
        by_contra hblank
        rw [Bool.not_eq_false, isBlank_iff] at hblank
        obtain ⟨b, hb, hlow, hhigh⟩ := hblank
        have := ((blanks_apart b hb).2 r hr).2
        omega

/-! ## Runs of characters -/

/-- A property of characters is kept by case if what becomes of a character has it exactly if the
character has it. -/
def KeptByCase (p : Char → Bool) : Prop :=
  ∀ before c after, ∀ d ∈ lowerAmong before c after, p d = p c

theorem keptByCase_isBlank : KeptByCase isBlank := by
  intro before c after d hd
  cases hc : isBlank c with
  | true =>
    rw [lowerAmong_of_isBlank hc, List.mem_singleton] at hd
    rw [hd, hc]
  | false => exact not_isBlank_of_mem_lowerAmong hc hd

/-- Only the space becomes a space. -/
theorem keptByCase_ne_space : KeptByCase (· != ' ') := by
  intro before c after d hd
  cases hc : isBlank c with
  | true =>
    rw [lowerAmong_of_isBlank hc, List.mem_singleton] at hd
    rw [hd]
  | false =>
    have hne : ∀ {e : Char}, isBlank e = false → (e != ' ') = true := by
      intro e he
      rw [bne_iff_ne]
      rintro rfl
      exact absurd he (by decide)
    exact (hne (not_isBlank_of_mem_lowerAmong hc hd)).trans (hne hc).symm

namespace KeptByCase

variable {p : Char → Bool} {c : Char}

theorem not (hp : KeptByCase p) : KeptByCase fun c => !p c :=
  fun before c after d hd => congrArg (!·) (hp before c after d hd)

/-- A text that does not begin with the property does not in lower case. -/
theorem exists_lowerInto_cons (hp : KeptByCase p) (hc : p c = false) (before : Bool)
    (s : List Char) : ∃ d t, lowerInto before [] (c :: s) = d :: t ∧ ¬ p d = true := by
  obtain ⟨d, ds, hds⟩ := List.exists_cons_of_ne_nil (lowerAmong_ne_nil before c s)
  have hd : p d = p c := hp before c s d (hds ▸ List.mem_cons_self)
  refine ⟨d, ds ++ lowerInto (casedBefore before c) [] s, ?_, ?_⟩
  · rw [lowerInto_cons, hds, List.cons_append]
  · rw [hd, hc]
    exact Bool.false_ne_true

/-- What comes behind the first run of characters with the property is in lower case what it is in
lower case alone, up to what stands before it. -/
theorem dropWhile_lowerInto (hp : KeptByCase p) (before : Bool) (s : List Char) :
    ∃ before', (lowerInto before [] s).dropWhile p = lowerInto before' [] (s.dropWhile p) := by
  induction s generalizing before with
  | nil => exact ⟨before, rfl⟩
  | cons c s ih =>
    cases hc : p c with
    | true =>
      obtain ⟨before', hrest⟩ := ih (casedBefore before c)
      refine ⟨before', ?_⟩
      have hall : ∀ d ∈ lowerAmong before c s, p d = true :=
        fun d hd => (hp before c s d hd).trans hc
      rw [lowerInto_cons, List.dropWhile_append_of_pos hall, hrest, List.dropWhile_cons_of_pos hc]
    | false =>
      obtain ⟨d, t, hlower, hd⟩ := hp.exists_lowerInto_cons hc before s
      refine ⟨before, ?_⟩
      rw [List.dropWhile_cons_of_neg (by simp [hc]), hlower, List.dropWhile_cons_of_neg hd]

/-- A text in ASCII without a `k` is the lower-case form of texts in ASCII alone, whatever stands
around it. -/
theorem takeWhile_lowerInto_eq_iff (hp : KeptByCase p) {w : List Char}
    (hw : ∀ d ∈ w, d.toNat < 0x80 ∧ d ≠ 'k') (before : Bool) (s : List Char) :
    (lowerInto before [] s).takeWhile p = w ↔
      (∀ c ∈ s.takeWhile p, c.toNat < 0x80) ∧ (s.takeWhile p).map Char.toLower = w := by
  induction s generalizing before w with
  | nil => simp
  | cons c s ih =>
    cases hc : p c with
    | false =>
      obtain ⟨d, t, hlower, hd⟩ := hp.exists_lowerInto_cons hc before s
      rw [hlower, List.takeWhile_cons_of_neg hd, List.takeWhile_cons_of_neg (by simp [hc])]
      simp
    | true =>
      have hall : ∀ d ∈ lowerAmong before c s, p d = true :=
        fun d hd => (hp before c s d hd).trans hc
      rw [lowerInto_cons, List.takeWhile_append_of_pos hall, List.takeWhile_cons_of_pos hc]
      by_cases hascii : c.toNat < 0x80
      · rw [lowerAmong_of_ascii hascii]
        cases w with
        | nil => simp
        | cons d w =>
          simp [ih (fun e he => hw e (List.mem_cons_of_mem d he)), hascii, and_left_comm]
      · -- What the character leaves behind is nowhere in `w`.
        constructor
        · rintro rfl
          obtain ⟨d, hd, htrace⟩ := exists_trace_of_beyond (Nat.le_of_not_lt hascii) before s
          obtain ⟨hlow, hk⟩ := hw d (List.mem_append_left _ hd)
          exact absurd htrace (not_or.mpr ⟨hk, Nat.not_le_of_lt hlow⟩)
        · rintro ⟨hlow, -⟩
          exact absurd (hlow c List.mem_cons_self) hascii

end KeptByCase

end Plotter.Text
