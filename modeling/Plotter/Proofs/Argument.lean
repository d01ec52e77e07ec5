import Mathlib.Data.List.TakeWhile
import Plotter.Proofs.Reading
import Plotter.Proofs.Text.Numeral

/-!
# The numbers of commands

Three words for commands take a number (`Verb.Counted`). It is read from the first word behind the
first space of a line (`Operand`), and this is found after the whole line has been put into lower
case. That makes no difference, since case touches neither blanks nor the characters of numerals and
turns nothing else into them (`firstWord?_lower_eq_some_iff`). So a line carries the integer that
its operand denotes if it is one of sixty-four bits, and the usual number of its word in all other
cases (`Reading.ofLine_counted`).
-/

namespace Plotter

open Text

/-! ## The operand of a text -/

/-- A word is the first of a text: only blanks stand before it, it has no blank in it, and a blank
stands behind it unless the text ends there. -/
def FirstWord (s w : List Char) : Prop :=
  ∃ gap after, s = gap ++ (w ++ after) ∧ (∀ c ∈ gap, isBlank c = true) ∧
    (w ≠ [] ∧ ∀ c ∈ w, isBlank c = false) ∧ ∀ c ∈ after.head?, isBlank c = true

/-- A word is the operand of a text: it is the first word behind the first space. -/
def Operand (s w : List Char) : Prop :=
  ∃ before behind, s = before ++ ' ' :: behind ∧ ' ' ∉ before ∧ FirstWord behind w

theorem firstWord?_eq_some_iff_takeWhile {s w : List Char} :
    firstWord? s = some w ↔
      w ≠ [] ∧ (s.dropWhile isBlank).takeWhile (fun c => !isBlank c) = w := by
  unfold firstWord?
  split
  · next hnil =>
    rw [hnil]
    constructor
    · intro h
      cases h
    · rintro ⟨hne, rfl⟩
      exact absurd rfl hne
  · next hne =>
    rw [Option.some.injEq]
    constructor
    · rintro rfl
      exact ⟨hne, rfl⟩
    · exact And.right

/-- What is found as the first word of a text is its first word. -/
theorem firstWord?_eq_some_iff {s w : List Char} : firstWord? s = some w ↔ FirstWord s w := by
  rw [firstWord?_eq_some_iff_takeWhile]
  constructor
  · rintro ⟨hne, rfl⟩
    refine ⟨s.takeWhile isBlank, (s.dropWhile isBlank).dropWhile fun c => !isBlank c, ?_, ?_,
      ⟨hne, ?_⟩, ?_⟩
    · rw [List.takeWhile_append_dropWhile, List.takeWhile_append_dropWhile]
    · intro c hc
      exact List.mem_takeWhile_imp hc
    · intro c hc
      simpa using List.mem_takeWhile_imp hc
    · intro c hc
      have hstop := List.head?_dropWhile_not (fun c => !isBlank c) (s.dropWhile isBlank)
      rw [Option.mem_def.mp hc] at hstop
      simpa using hstop
  · rintro ⟨gap, after, rfl, hgap, ⟨hne, hw⟩, hafter⟩
    have hskip : (gap ++ (w ++ after)).dropWhile isBlank = w ++ after := by
      rw [List.dropWhile_append_of_pos hgap]
      cases w with
      | nil => exact absurd rfl hne
      | cons c w =>
        rw [List.cons_append, List.dropWhile_cons_of_neg (by simp [hw c List.mem_cons_self])]
    have hstop : after.takeWhile (fun c => !isBlank c) = [] := by
      cases after with
      | nil => rfl
      | cons c after => rw [List.takeWhile_cons_of_neg (by simp [hafter c rfl])]
    refine ⟨hne, ?_⟩
    rw [hskip, List.takeWhile_append_of_pos (fun c hc => by simp [hw c hc]), hstop, List.append_nil]

theorem behindWord_append {s : List Char} (h : ' ' ∉ s) (t : List Char) :
    behindWord (s ++ t) = behindWord t := by
  unfold behindWord
  rw [List.dropWhile_append_of_pos]
  intro c hc
  simpa using ne_of_mem_of_not_mem hc h

@[simp] theorem behindWord_space (s : List Char) : behindWord (' ' :: s) = s := rfl

/-- After the word of a text there is nothing, or the first space and what is behind it. -/
theorem dropWhile_ne_space (s : List Char) :
    s.dropWhile (· != ' ') = [] ∨ s.dropWhile (· != ' ') = ' ' :: behindWord s := by
  unfold behindWord
  have hstop := List.head?_dropWhile_not (· != ' ') s
  cases hrest : s.dropWhile (· != ' ') with
  | nil => exact Or.inl rfl
  | cons c behind =>
    right
    rw [hrest] at hstop
    obtain rfl : c = ' ' := by simpa using hstop
    rfl

/-- The operand of a text is what is found as the first word behind its first space. -/
theorem firstWord?_behindWord_eq_some_iff {s w : List Char} :
    firstWord? (behindWord s) = some w ↔ Operand s w := by
  constructor
  · intro h
    have hparts : word s ++ s.dropWhile (· != ' ') = s := List.takeWhile_append_dropWhile
    rcases dropWhile_ne_space s with hrest | hrest
    · rw [behindWord, hrest] at h
      cases h
    · rw [hrest] at hparts
      refine ⟨word s, behindWord s, hparts.symm, fun hspace => ?_, firstWord?_eq_some_iff.mp h⟩
      simpa using List.mem_takeWhile_imp hspace
  · rintro ⟨before, behind, rfl, hbefore, hw⟩
    rw [behindWord_append hbefore, behindWord_space]
    exact firstWord?_eq_some_iff.mpr hw

/-- A text has one operand at most. -/
theorem Operand.unique {s w w' : List Char} (h : Operand s w) (h' : Operand s w') : w = w' := by
  have hw := firstWord?_behindWord_eq_some_iff.mpr h
  rw [firstWord?_behindWord_eq_some_iff.mpr h'] at hw
  exact (Option.some.inj hw).symm

/-! ## The operand in lower case -/

/-- The characters behind the first space are in lower case what they are in lower case alone, up
to what stands before them. -/
theorem behindWord_lowerInto (before : Bool) (s : List Char) :
    ∃ before', behindWord (lowerInto before [] s) = lowerInto before' [] (behindWord s) := by
  obtain ⟨before', hlower⟩ := keptByCase_ne_space.dropWhile_lowerInto before s
  rcases dropWhile_ne_space s with hrest | hrest
  · refine ⟨before', ?_⟩
    rw [behindWord, behindWord, hlower, hrest]
    rfl
  · refine ⟨casedBefore before' ' ', ?_⟩
    rw [behindWord, hlower, hrest, lowerInto_cons, lowerAmong_of_ascii (by decide)]
    rfl

/-- Lower case neither makes nor unmakes an operand of plain characters. -/
theorem firstWord?_lower_eq_some_iff {s w : List Char} (hw : ∀ d ∈ w, Plain d) :
    firstWord? (behindWord (lower s)) = some w ↔ firstWord? (behindWord s) = some w := by
  obtain ⟨before, hbehind⟩ := behindWord_lowerInto false s
  obtain ⟨before', hskip⟩ := keptByCase_isBlank.dropWhile_lowerInto before (behindWord s)
  have hinert : ∀ d ∈ w, d.toNat < 0x80 ∧ d ≠ 'k' := by
    intro d hd
    refine ⟨(hw d hd).1, ?_⟩
    rintro rfl
    exact absurd (hw 'k' hd) (by decide)
  rw [firstWord?_eq_some_iff_takeWhile, firstWord?_eq_some_iff_takeWhile, lower, hbehind, hskip,
    keptByCase_isBlank.not.takeWhile_lowerInto_eq_iff hinert, map_toLower_eq_iff_of_plain hw]

/-- Numerals consist of characters that case does not touch. -/
theorem plain_of_denotes {w : List Char} {n : Int} (hw : Denotes w n) : ∀ c ∈ w, Plain c := by
  intro c hc
  obtain ⟨hlow, hhigh⟩ := hw.bounds c hc
  refine ⟨by omega, ?_⟩
  by_contra hletter
  have hbounds := bounds_of_isAlpha (eq_true_of_ne_false hletter)
  omega

theorem signed?_eq_some_iff {w : List Char} {n : Int} :
    signed? w = some n ↔ Denotes w n ∧ -2 ^ 63 ≤ n ∧ n ≤ 2 ^ 63 - 1 := by
  have hfits : FitsSigned n ↔ -2 ^ 63 ≤ n ∧ n ≤ 2 ^ 63 - 1 := by
    unfold FitsSigned
    omega
  unfold signed?
  rw [Option.filter_eq_some_iff, integer?_eq_some_iff, decide_eq_true_iff, hfits]

/-- The number found in a text in lower case is that which the operand of the text denotes, if it is
an integer of sixty-four bits. -/
theorem argument?_lower_eq_some_iff {s : List Char} {n : Int} :
    argument? (lower s) = some n ↔
      ∃ w, Operand s w ∧ Denotes w n ∧ -2 ^ 63 ≤ n ∧ n ≤ 2 ^ 63 - 1 := by
  unfold argument?
  rw [Option.bind_eq_some_iff]
  refine exists_congr fun w => ?_
  rw [signed?_eq_some_iff]
  refine and_congr_left fun h => ?_
  rw [firstWord?_lower_eq_some_iff (plain_of_denotes h.1), firstWord?_behindWord_eq_some_iff]

/-- All that counts of a text is its operand. -/
theorem argument?_lower_of_operand {s w : List Char} (h : Operand s w) :
    argument? (lower s) = signed? w := by
  ext n
  rw [argument?_lower_eq_some_iff, signed?_eq_some_iff]
  constructor
  · rintro ⟨w', hw', hn⟩
    rwa [h.unique hw']
  · intro hn
    exact ⟨w, h, hn⟩

/-! ## The words that take a number -/

/-- A word for a command takes a number: the command is made of the number, and of the usual number
if none is given. -/
inductive Verb.Counted : Verb → (Int → Command) → Int → Prop
  | steps : Counted .steps .steps 0
  | left : Counted .left .left 1
  | right : Counted .right .right 1

theorem Verb.Counted.command_eq {v : Verb} {make : Int → Command} {usual : Int}
    (h : v.Counted make usual) (n : Option Int) : v.command n = make (n.getD usual) := by
  cases h <;> rfl

/-! ## Lines that stay as they are -/

theorem dropWhile_isBlank_eq_self {s : List Char} (h : ∀ c ∈ s.head?, isBlank c = false) :
    s.dropWhile isBlank = s := by
  cases s with
  | nil => rfl
  | cons c s => rw [List.dropWhile_cons_of_neg (by simp [h c rfl])]

/-- Nothing is taken off a line that has no ends of lines in it and no blank at either end. -/
theorem bare_eq_self {s : List Char} (h : ∀ c ∈ s, c ≠ '\r' ∧ c ≠ '\n')
    (hfirst : ∀ c ∈ s.head?, isBlank c = false) (hlast : ∀ c ∈ s.getLast?, isBlank c = false) :
    bare s = s := by
  have hall : s.filter (fun c => c != '\r' && c != '\n') = s := by
    rw [List.filter_eq_self]
    intro c hc
    simpa using h c hc
  unfold bare trim trimEnd
  rw [hall, dropWhile_isBlank_eq_self hfirst, dropWhile_isBlank_eq_self, List.reverse_reverse]
  rwa [List.head?_reverse]

section written

variable {v : Verb} {t w : List Char} {n : Int}

theorem Verb.Calls.ne_nil (ht : v.Calls t) : t ≠ [] := by
  rintro rfl
  obtain ⟨-, hspelt⟩ := ht
  cases v <;> cases hspelt

theorem Verb.Calls.not_isBlank (ht : v.Calls t) : ∀ c ∈ t, isBlank c = false :=
  fun c hc => not_isBlank_of_isAlpha (ht.1 c hc)

theorem Verb.Calls.space_not_mem (ht : v.Calls t) : ' ' ∉ t :=
  fun hspace => absurd (ht.1 ' ' hspace) (by decide)

theorem not_isBlank_of_denotes (hw : Denotes w n) : ∀ c ∈ w, isBlank c = false := by
  intro c hc
  obtain ⟨hlow, hhigh⟩ := hw.bounds c hc
  exact not_isBlank_of_visible (by omega) (by omega)

/-- Nothing is taken off a line that is made of a word for a command, a space and a numeral. -/
theorem bare_of_calls (ht : v.Calls t) (hw : Denotes w n) :
    bare (t ++ ' ' :: w) = t ++ ' ' :: w := by
  apply bare_eq_self
  · intro c hc
    have hcases : isBlank c = false ∨ c = ' ' := by
      rw [List.mem_append, List.mem_cons] at hc
      rcases hc with hc | hc | hc
      · exact Or.inl (ht.not_isBlank c hc)
      · exact Or.inr hc
      · exact Or.inl (not_isBlank_of_denotes hw c hc)
    constructor
    · rintro rfl
      exact absurd hcases (by decide)
    · rintro rfl
      exact absurd hcases (by decide)
  · intro c hc
    rw [List.head?_append_of_ne_nil _ ht.ne_nil] at hc
    exact ht.not_isBlank c (List.mem_of_mem_head? hc)
  · intro c hc
    rw [List.getLast?_append_of_ne_nil _ (List.cons_ne_nil ' ' w), ← List.singleton_append,
      List.getLast?_append_of_ne_nil _ hw.ne_nil] at hc
    exact not_isBlank_of_denotes hw c (List.mem_of_mem_getLast? hc)

theorem word_of_calls (ht : v.Calls t) : word (t ++ ' ' :: w) = t := by
  rw [word_append ht.space_not_mem, word_space, List.append_nil]

theorem operand_of_calls (ht : v.Calls t) (hw : Denotes w n) : Operand (t ++ ' ' :: w) w := by
  refine ⟨t, w, rfl, ht.space_not_mem, [], [], ?_, ?_, ⟨hw.ne_nil, not_isBlank_of_denotes hw⟩, ?_⟩
  · rw [List.append_nil, List.nil_append]
  · exact fun c hc => absurd hc List.not_mem_nil
  · exact fun c hc => absurd hc (Option.not_mem_none c)

end written

/-! ## What a line says -/

section counted

variable {v : Verb} {make : Int → Command} {usual : Int} {line : List Char}

/-- What a line says whose word takes a number. -/
theorem Verb.Counted.ofLine_eq (hv : v.Counted make usual) (hline : v.Calls (word (bare line))) :
    Reading.ofLine line = .command (make ((argument? (lower (bare line))).getD usual)) := by
  rw [Reading.ofLine_of_calls hline, hv.command_eq]

theorem Verb.Counted.ofLine_of_denotes (hv : v.Counted make usual)
    (hline : v.Calls (word (bare line))) {w : List Char} {n : Int} (hw : Operand (bare line) w)
    (hn : Denotes w n) (hrange : -2 ^ 63 ≤ n ∧ n ≤ 2 ^ 63 - 1) :
    Reading.ofLine line = .command (make n) := by
  rw [hv.ofLine_eq hline, argument?_lower_eq_some_iff.mpr ⟨w, hw, hn, hrange⟩, Option.getD_some]

/-- **The numbers of commands.** A line whose word takes a number gives the command made of the
integer that its operand denotes, if this is an integer of sixty-four bits. In all other cases,
where there is no operand, or it is no numeral, or the integer is out of range, the command is made
of the usual number. Nothing but the operand counts, whatever stands around it. In particular every
integer of sixty-four bits is read back from its decimal form. -/
theorem Reading.ofLine_counted (hv : v.Counted make usual) (hline : v.Calls (word (bare line))) :
    (∀ w n, Operand (bare line) w → Denotes w n → -2 ^ 63 ≤ n ∧ n ≤ 2 ^ 63 - 1 →
      Reading.ofLine line = .command (make n)) ∧
    ((¬ ∃ w n, Operand (bare line) w ∧ Denotes w n ∧ -2 ^ 63 ≤ n ∧ n ≤ 2 ^ 63 - 1) →
      Reading.ofLine line = .command (make usual)) ∧
    (∀ line' w, v.Calls (word (bare line')) → Operand (bare line) w → Operand (bare line') w →
      Reading.ofLine line' = Reading.ofLine line) ∧
    ∀ (t : List Char) (n : Int), v.Calls t → -2 ^ 63 ≤ n ∧ n ≤ 2 ^ 63 - 1 →
      Reading.ofLine (t ++ ' ' :: decimalInt n) = .command (make n) := by
  refine ⟨fun w n => hv.ofLine_of_denotes hline, ?_, ?_, ?_⟩
  · intro hother
    have hnone : argument? (lower (bare line)) = none := by
      rw [Option.eq_none_iff_forall_ne_some]
      intro n hn
      obtain ⟨w, hw⟩ := argument?_lower_eq_some_iff.mp hn
      exact hother ⟨w, n, hw⟩
    rw [hv.ofLine_eq hline, hnone, Option.getD_none]
  · intro line' w hline' hw hw'
    rw [hv.ofLine_eq hline', hv.ofLine_eq hline, argument?_lower_of_operand hw,
      argument?_lower_of_operand hw']
  · intro t n ht hrange
    have hn := denotes_decimalInt n
    have hbare := bare_of_calls ht hn
    have hcalls : v.Calls (word (bare (t ++ ' ' :: decimalInt n))) := by
      rwa [hbare, word_of_calls ht]
    apply hv.ofLine_of_denotes hcalls _ hn hrange
    rw [hbare]
    exact operand_of_calls ht hn

end counted

/-- The least integer of sixty-four bits is read behind two blanks, and the next below it is not. -/
theorem Reading.ofLine_counted_least :
    Reading.ofLine (['L', 'e', 'F', 't', ' ', '\t'] ++
        ['-', '9', '2', '2', '3', '3', '7', '2', '0', '3',
         '6', '8', '5', '4', '7', '7', '5', '8', '0', '8'] ++ [' ', 'x']) =
      .command (.left (-2 ^ 63)) ∧
    Reading.ofLine (['L', 'e', 'F', 't', ' ', '\t'] ++
        ['-', '9', '2', '2', '3', '3', '7', '2', '0', '3',
         '6', '8', '5', '4', '7', '7', '5', '8', '0', '9']) =
      .command (.left 1) := by
  have hcalls : ∀ {line : List Char}, word (bare line) = ['L', 'e', 'F', 't'] →
      Verb.left.Calls (word (bare line)) := by
    intro line hword
    rw [hword]
    exact ⟨List.all_eq_true.mp rfl, rfl⟩
  constructor
  · apply (Reading.ofLine_counted .left (hcalls rfl)).1
    · exact firstWord?_behindWord_eq_some_iff.mp rfl
    · exact integer?_eq_some_iff.mp rfl
    · decide
  · apply (Reading.ofLine_counted .left (hcalls rfl)).2.1
    rintro ⟨w, n, h⟩
    have hread : none = some n := argument?_lower_eq_some_iff.mpr ⟨w, h⟩
    cases hread

end Plotter
