import Mathlib.Data.List.Basic
import Plotter.Command
import Plotter.Proofs.Text.Lowering

/-!
# The language of commands

A line is put into lower case before its word is compared with the words for commands, and this is
the lower case of Unicode, in which other characters become ASCII letters and one character becomes
two. Still the words for commands can be told without it: a line calls a command if the word in it
consists of letters of ASCII and, with small letters for capitals, is one of the eleven
(`Verb.Calls`, `Reading.ofLine_eq_command_iff`). This rests on the spelling of the words: no word
has a `k` in it, so that the sign for kelvin cannot stand for a letter of any. The words themselves,
each with its command, are listed in `Verb.exists_calls_iff`.
-/

namespace Plotter

open Text

/-! ## The word of a text in lower case -/

@[simp] theorem word_space (s : List Char) : word (' ' :: s) = [] := rfl

/-- Without a space in front, the word begins with all of it. -/
theorem word_append {s : List Char} (h : ' ' ∉ s) (t : List Char) :
    word (s ++ t) = s ++ word t := by
  refine List.takeWhile_append_of_pos fun c hc => ?_
  simpa using ne_of_mem_of_not_mem hc h

/-- A word in ASCII without a `k` is the lower-case form of words in ASCII alone, whatever stands
around it. -/
theorem word_lowerInto_eq_iff {w : List Char} (hw : ∀ d ∈ w, d.toNat < 0x80 ∧ d ≠ 'k')
    (before : Bool) (s : List Char) :
    word (lowerInto before [] s) = w ↔
      (∀ c ∈ word s, c.toNat < 0x80) ∧ (word s).map Char.toLower = w :=
  keptByCase_ne_space.takeWhile_lowerInto_eq_iff hw before s

/-! ## The words for commands -/

/-- The words for commands are spelt in small letters, and none has a `k`. -/
theorem Verb.isLower_of_mem_spelling (v : Verb) :
    ∀ d ∈ v.spelling, d.isLower ∧ d.toNat < 0x80 ∧ d ≠ 'k' := by
  have hall : v.spelling.all fun d => d.isLower && d.toNat < 0x80 && d != 'k' := by
    cases v <;> rfl
  simpa [List.all_eq_true, and_assoc] using hall

/-- A word calls a command: it consists of letters of ASCII and, in small letters, is the word for
the command. -/
def Verb.Calls (t : List Char) (v : Verb) : Prop :=
  (∀ c ∈ t, c.isAlpha) ∧ t.map Char.toLower = v.spelling

/-- **The eleven words.** A text calls a command exactly if it consists of letters and, in small
letters, is one of these words, each of which has one command. Three of the commands take a number,
and each has a number of its own for where none is given. -/
theorem Verb.exists_calls_iff {t : List Char} {n : Option Int} {k : Command} :
    (∃ v : Verb, v.Calls t ∧ k = v.command n) ↔
      (∀ c ∈ t, c.isAlpha) ∧ (String.ofList (t.map Char.toLower), k) ∈
        [("steps", .steps (n.getD 0)), ("left", .left (n.getD 1)), ("right", .right (n.getD 1)),
          ("hover", .hover), ("draw", .draw), ("erase", .erase), ("coord", .coord),
          ("render", .render), ("clear", .clear), ("quit", .quit), ("test", .test)] := by
  show _ ↔ _ ∧ _ ∈ Verb.all.map fun v => (String.ofList v.spelling, v.command n)
  rw [List.mem_map]
  constructor
  · rintro ⟨v, ⟨hletters, hspelt⟩, rfl⟩
    exact ⟨hletters, v, by cases v <;> decide, by rw [hspelt]⟩
  · rintro ⟨hletters, v, -, hv⟩
    obtain ⟨hspelt, rfl⟩ := Prod.mk.inj hv
    exact ⟨v, ⟨hletters, (String.ofList_injective hspelt).symm⟩, rfl⟩

/-- Words in ASCII that are spelt as the word for a command consist of letters. -/
theorem Verb.calls_iff_ascii {t : List Char} {v : Verb} :
    v.Calls t ↔ (∀ c ∈ t, c.toNat < 0x80) ∧ t.map Char.toLower = v.spelling := by
  refine and_congr_left fun hspelt => ⟨fun h c hc => toNat_lt_of_isAlpha (h c hc), fun _ c hc => ?_⟩
  have hmem : c.toLower ∈ v.spelling := hspelt ▸ List.mem_map_of_mem hc
  exact isAlpha_of_isLower_toLower (v.isLower_of_mem_spelling _ hmem).1

/-- The word of a text in lower case is the word for a command exactly if the text has a word that
calls it. -/
theorem word_lower_eq_spelling_iff {s : List Char} {v : Verb} :
    word (lower s) = v.spelling ↔ v.Calls (word s) := by
  rw [Verb.calls_iff_ascii]
  exact word_lowerInto_eq_iff (fun d hd => (v.isLower_of_mem_spelling d hd).2) false s

/-! ## What a line says -/

/-- A line without the ends of lines in it and the blanks around it. -/
def bare (line : List Char) : List Char := trim (line.filter fun c => c != '\r' && c != '\n')

theorem normal_eq (line : List Char) : normal line = lower (bare line) := rfl

/-- Nothing is added to a line. -/
theorem mem_of_mem_bare {line : List Char} {c : Char} (h : c ∈ bare line) : c ∈ line := by
  unfold bare trim trimEnd at h
  have hreverse := (List.dropWhile_sublist _).mem (List.mem_reverse.mp h)
  have hfilter := (List.dropWhile_sublist _).mem (List.mem_reverse.mp hreverse)
  exact List.mem_of_mem_filter hfilter

theorem Reading.ofLine_of_calls {line : List Char} {v : Verb} (h : v.Calls (word (bare line))) :
    Reading.ofLine line = .command (v.command (argument? (lower (bare line)))) := by
  have hspelt := Verb.ofSpelling?_eq_some_iff.mpr (word_lower_eq_spelling_iff.mpr h).symm
  simp only [Reading.ofLine, Reading.ofNormal, normal_eq, hspelt]

theorem Reading.ofLine_of_not_calls {line : List Char}
    (h : ¬ ∃ v : Verb, v.Calls (word (bare line))) :
    Reading.ofLine line = .unknown (word (lower (bare line))) := by
  have hnone : Verb.ofSpelling? (word (lower (bare line))) = none := by
    by_contra hsome
    obtain ⟨v, hv⟩ := Option.ne_none_iff_exists'.mp hsome
    exact h ⟨v, word_lower_eq_spelling_iff.mp (Verb.ofSpelling?_eq_some_iff.mp hv).symm⟩
  simp only [Reading.ofLine, Reading.ofNormal, normal_eq, hnone]

/-- A line says nothing if none of its characters is in a word for a command. -/
theorem Reading.exists_unknown_of_forall {line : List Char}
    (h : ∀ c ∈ line, ∀ v : Verb, c.toLower ∉ v.spelling) : ∃ w, ofLine line = .unknown w := by
  refine ⟨_, ofLine_of_not_calls ?_⟩
  rintro ⟨v, -, hspelt⟩
  obtain ⟨d, hd⟩ := List.exists_mem_of_ne_nil v.spelling (by cases v <;> exact List.cons_ne_nil _ _)
  have hmem := hd
  rw [← hspelt, List.mem_map] at hmem
  obtain ⟨c, hc, rfl⟩ := hmem
  exact h c (mem_of_mem_bare ((List.takeWhile_sublist _).mem hc)) v hd

/-- **The lines that give commands.** A line gives a command exactly if its word calls one, and then
it gives that one, with the number behind the word; all other lines give the word that they have in
lower case. In particular a line gives no command if there is any character in its word that is not
a letter of ASCII. -/
theorem Reading.ofLine_eq_command_iff (line : List Char) :
    (∀ k, Reading.ofLine line = .command k ↔
      ∃ v : Verb, v.Calls (word (bare line)) ∧ k = v.command (argument? (lower (bare line)))) ∧
    ((¬ ∃ v : Verb, v.Calls (word (bare line))) ↔
      Reading.ofLine line = .unknown (word (lower (bare line)))) ∧
    ∀ c ∈ word (bare line), c.isAlpha = false →
      Reading.ofLine line = .unknown (word (lower (bare line))) := by
  refine ⟨fun k => ⟨fun hk => ?_, ?_⟩, ⟨Reading.ofLine_of_not_calls, ?_⟩, fun c hc hother => ?_⟩
  · by_cases h : ∃ v : Verb, v.Calls (word (bare line))
    · obtain ⟨v, hv⟩ := h
      rw [Reading.ofLine_of_calls hv, Reading.command.injEq] at hk
      exact ⟨v, hv, hk.symm⟩
    · rw [Reading.ofLine_of_not_calls h] at hk
      exact absurd hk Reading.noConfusion
  · rintro ⟨v, hv, rfl⟩
    exact Reading.ofLine_of_calls hv
  · rintro hunknown ⟨v, hv⟩
    rw [Reading.ofLine_of_calls hv] at hunknown
    exact absurd hunknown Reading.noConfusion
  · refine Reading.ofLine_of_not_calls ?_
    rintro ⟨v, hletters, -⟩
    exact absurd (hletters c hc) (by simp [hother])

/-- The sign for kelvin reads as a `k`. -/
example : Reading.ofLine ['\u212A', ' ', '1'] = .unknown ['k'] := by decide

end Plotter
