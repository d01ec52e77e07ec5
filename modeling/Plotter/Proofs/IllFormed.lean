import Plotter.Proofs.Argument
import Plotter.Proofs.Script
import Plotter.Proofs.Text.Decoding

/-!
# Ill-formed lines

What becomes of a line that is not well-formed UTF-8. It is decoded with replacement characters, and
since no word for a command has one in it, an ill-formed word calls nothing. But only the word
counts: what stands behind the first space is not looked at, or counts as no number. So an
ill-formed line is passed over exactly if it does not begin with a sound word for a command and a
space (`Reading.exists_command_iff_led`); a line that does is obeyed, ill-formed as it is
(`ill_formed_line_obeyed`).

The lines that are passed over can be struck out of a payload, and neither the canvas nor the
answers nor the verdict are others (`Canvas.process_without_ill_formed`).
-/

namespace Plotter

open Text Framing

/-! ## Reports -/

namespace Text.Utf8

variable {bytes : List UInt8} {t : List Char}

theorem exists_eq_map_some {cs : List (Option Char)} (h : none ∉ cs) :
    ∃ t : List Char, cs = t.map some := by
  induction cs with
  | nil => exact ⟨[], rfl⟩
  | cons o cs ih =>
    rw [List.mem_cons, not_or] at h
    obtain ⟨c, rfl⟩ := Option.ne_none_iff_exists'.mp (Ne.symm h.1)
    obtain ⟨t, rfl⟩ := ih h.2
    exact ⟨c :: t, rfl⟩

/-- Bytes are well-formed exactly if they decode to characters alone. -/
theorem strict?_eq_some_iff : strict? bytes = some t ↔ decode bytes = t.map some := by
  have hread : ∀ u : List Char, (u.map some).filterMap id = u := fun u => by
    rw [List.filterMap_map, Function.id_comp, List.filterMap_some]
  unfold strict?
  dsimp only
  constructor
  · intro h
    split at h
    · next hall =>
      have hnone : none ∉ decode bytes := fun hmem =>
        Bool.false_ne_true (List.all_eq_true.mp hall none hmem)
      obtain ⟨u, hu⟩ := exists_eq_map_some hnone
      rw [hu, hread, Option.some.injEq] at h
      rw [hu, h]
    · cases h
  · intro h
    have hall : (t.map some).all Option.isSome = true := by
      rw [List.all_map, List.all_eq_true]
      exact fun _ _ => rfl
    rw [h, if_pos hall, hread]

/-- Bytes are ill-formed exactly if there is a report among what they decode to. -/
theorem strict?_eq_none_iff : strict? bytes = none ↔ none ∈ decode bytes := by
  constructor
  · intro h
    by_contra hnone
    obtain ⟨u, hu⟩ := exists_eq_map_some hnone
    rw [strict?_eq_some_iff.mpr hu] at h
    cases h
  · intro h
    rw [Option.eq_none_iff_forall_ne_some]
    intro u hu
    rw [strict?_eq_some_iff.mp hu, List.mem_map] at h
    obtain ⟨c, -, hc⟩ := h
    cases hc

/-- In the text of ill-formed bytes there is a replacement character. -/
theorem replacement_mem_lenient (h : strict? bytes = none) : replacement ∈ lenient bytes :=
  List.mem_map.mpr ⟨none, strict?_eq_none_iff.mp h, rfl⟩

/-- Well-formed bytes have the same text in both readings. -/
theorem lenient_of_strict? (h : strict? bytes = some t) : lenient bytes = t := by
  rw [lenient, strict?_eq_some_iff.mp h, List.map_map]
  exact List.map_id t

/-- Bytes without a replacement character in their text are well-formed. -/
theorem strict?_of_replacement_not_mem (h : replacement ∉ lenient bytes) :
    strict? bytes = some (lenient bytes) := by
  cases hs : strict? bytes with
  | none => exact absurd (replacement_mem_lenient hs) h
  | some t => rw [lenient_of_strict? hs]

end Text.Utf8

/-! ## The word of a line -/

/-- A text without the ends of lines in it and the blanks before it. -/
def opening (s : List Char) : List Char :=
  (s.filter fun c => c != '\r' && c != '\n').dropWhile isBlank

theorem bare_eq (s : List Char) : bare s = trimEnd (opening s) := rfl

/-- Only ends of lines and blanks stand before the opening of a text. -/
theorem takeWhile_append_opening (s : List Char) :
    (s.filter fun c => c != '\r' && c != '\n').takeWhile isBlank ++ opening s =
      s.filter fun c => c != '\r' && c != '\n' :=
  List.takeWhile_append_dropWhile

/-- Only blanks are taken off the end of a text. -/
theorem exists_eq_trimEnd_append (s : List Char) :
    ∃ gap, (∀ c ∈ gap, isBlank c = true) ∧ s = trimEnd s ++ gap := by
  refine ⟨(s.reverse.takeWhile isBlank).reverse, fun c hc => ?_, ?_⟩
  · exact List.mem_takeWhile_imp (List.mem_reverse.mp hc)
  · rw [trimEnd, ← List.reverse_append, List.takeWhile_append_dropWhile, List.reverse_reverse]

/-- Nothing is taken off characters before the end that are no blanks. -/
theorem trimEnd_append {w : List Char} (hw : ∀ c ∈ w, isBlank c = false) (t : List Char) :
    trimEnd (w ++ t) = w ++ trimEnd t := by
  have hkeep : w.reverse.dropWhile isBlank = w.reverse :=
    dropWhile_isBlank_eq_self fun c hc => hw c (List.mem_reverse.mp (List.mem_of_mem_head? hc))
  unfold trimEnd
  rw [List.reverse_append, List.dropWhile_append]
  split
  · next hnil =>
    rw [List.isEmpty_iff.mp hnil, hkeep, List.reverse_reverse]
    exact (List.append_nil w).symm
  · rw [List.reverse_append, List.reverse_reverse]

/-- A space and what is behind it have no word before them, even with blanks taken off the end. -/
theorem word_trimEnd_space (t : List Char) : word (trimEnd (' ' :: t)) = [] := by
  obtain ⟨gap, -, heq⟩ := exists_eq_trimEnd_append (' ' :: t)
  cases htrim : trimEnd (' ' :: t) with
  | nil => rfl
  | cons d r =>
    rw [htrim] at heq
    obtain ⟨rfl, -⟩ := List.cons.inj heq
    exact word_space r

variable {u : List Char} {v : Verb}

/-- What comes before a space and calls a command is the word of the line. -/
theorem word_bare_of_calls_opening (hv : v.Calls (opening u)) (t : List Char) :
    word (bare (u ++ ' ' :: t)) = opening u := by
  have hopening : opening (u ++ ' ' :: t) =
      opening u ++ ' ' :: t.filter fun c => c != '\r' && c != '\n' := by
    have hne : ¬ (opening u).isEmpty = true := fun hnil => hv.ne_nil (List.isEmpty_iff.mp hnil)
    unfold opening at hne ⊢
    rw [List.filter_append, List.filter_cons_of_pos (by decide), List.dropWhile_append, if_neg hne]
  rw [bare_eq, hopening, trimEnd_append hv.not_isBlank, word_append hv.space_not_mem,
    word_trimEnd_space, List.append_nil]

/-- A character that is no blank is in none of what is taken off before a text. -/
theorem mem_opening {s : List Char} {c : Char} (hc : c ∈ s) (hblank : isBlank c = false) :
    c ∈ opening s := by
  have hkeep : (c != '\r' && c != '\n') = true := by
    rw [Bool.and_eq_true, bne_iff_ne, bne_iff_ne]
    constructor
    · rintro rfl
      exact absurd hblank (by decide)
    · rintro rfl
      exact absurd hblank (by decide)
  have hmem : c ∈ s.filter fun c => c != '\r' && c != '\n' := List.mem_filter.mpr ⟨hc, hkeep⟩
  rw [← takeWhile_append_opening, List.mem_append] at hmem
  rcases hmem with hgap | hrest
  · exact absurd (List.mem_takeWhile_imp hgap) (Bool.not_eq_true _ ▸ hblank)
  · exact hrest

/-- If there is more in a line than blanks and letters, but its word calls a command, then a space
stands behind that word. -/
theorem exists_of_calls_word {s : List Char} {c : Char} (hc : c ∈ s) (hblank : isBlank c = false)
    (hletter : c.isAlpha = false) (hv : v.Calls (word (bare s))) :
    ∃ u t, s = u ++ ' ' :: t ∧ opening u = word (bare s) := by
  obtain ⟨gap, hgap, htrim⟩ := exists_eq_trimEnd_append (opening s)
  rw [← bare_eq] at htrim
  have hbare : c ∈ bare s := by
    have hopening := mem_opening hc hblank
    rw [htrim, List.mem_append] at hopening
    rcases hopening with hmem | hmem
    · exact hmem
    · exact absurd (hgap c hmem) (Bool.not_eq_true _ ▸ hblank)
  -- the character is not in the word, so the word ends at a space
  have hword : word (bare s) ++ (bare s).dropWhile (· != ' ') = bare s :=
    List.takeWhile_append_dropWhile
  have hspace : (bare s).dropWhile (· != ' ') = ' ' :: behindWord (bare s) := by
    rcases dropWhile_ne_space (bare s) with hnil | hspace
    · rw [hnil, List.append_nil] at hword
      rw [← hword] at hbare
      exact absurd (hv.1 c hbare) (Bool.not_eq_true _ ▸ hletter)
    · exact hspace
  have hsplit : s.filter (fun c => c != '\r' && c != '\n') =
      (s.filter fun c => c != '\r' && c != '\n').takeWhile isBlank ++
        (word (bare s) ++ ' ' :: (behindWord (bare s) ++ gap)) := by
    rw [← List.cons_append, ← hspace, ← List.append_assoc (word _), hword, ← htrim]
    exact (takeWhile_append_opening s).symm
  -- what was removed from the line stood somewhere between those parts
  obtain ⟨u₁, rest, hs, hu₁, hrest⟩ := List.filter_eq_append_iff.mp hsplit
  obtain ⟨u₂, rest', rfl, hu₂, hrest'⟩ := List.filter_eq_append_iff.mp hrest
  obtain ⟨u₃, t, rfl, hu₃, -, -⟩ := List.filter_eq_cons_iff.mp hrest'
  refine ⟨u₁ ++ u₂ ++ u₃, t, ?_, ?_⟩
  · rw [hs, List.append_assoc, List.append_assoc]
  · have hnone : u₃.filter (fun c => c != '\r' && c != '\n') = [] :=
      List.filter_eq_nil_iff.mpr hu₃
    rw [opening, List.filter_append, List.filter_append, hu₁, hu₂, hnone, List.append_nil,
      List.dropWhile_append_of_pos fun d hd => List.mem_takeWhile_imp hd]
    exact dropWhile_isBlank_eq_self fun d hd => hv.not_isBlank d (List.mem_of_mem_head? hd)

/-! ## Lines led by a word -/

/-- A line begins with a well-formed word for a command, and a space stands behind it. There may be
anything behind the space. -/
def Led (l : List UInt8) (v : Verb) : Prop :=
  ∃ a b t, l = a ++ 0x20 :: b ∧ Utf8.strict? a = some t ∧ v.Calls (opening t)

namespace Reading

/-- A line that begins with a word for a command is obeyed, whatever stands behind the space. -/
theorem ofLine_of_led {l : List UInt8} {v : Verb} (h : Led l v) :
    ofLine (Utf8.lenient l) = .command (v.command (argument? (normal (Utf8.lenient l)))) := by
  obtain ⟨a, b, t, rfl, ha, hv⟩ := h
  have hline : Utf8.lenient (a ++ 0x20 :: b) = t ++ ' ' :: Utf8.lenient b := by
    rw [Utf8.lenient_append_ascii a b (by decide), Utf8.lenient_of_strict? ha]
    rfl
  rw [hline]
  apply ofLine_of_calls
  rwa [word_bare_of_calls_opening hv]

/-- An ill-formed line whose word calls a command has that word whole, with a space behind it: the
replacement character is neither a blank nor a letter. -/
theorem led_of_calls_word {l : List UInt8} {v : Verb} (hl : Utf8.strict? l = none)
    (hv : v.Calls (word (bare (Utf8.lenient l)))) : Led l v := by
  obtain ⟨u, s, hline, hu⟩ := exists_of_calls_word (Utf8.replacement_mem_lenient hl) (by decide)
    (by decide) hv
  obtain ⟨a, x, b, rfl, hx, rfl, -⟩ := Utf8.exists_of_lenient_eq_append (by decide) hline
  obtain rfl : x = 0x20 := UInt8.toNat_inj.mp hx
  rw [← hu] at hv
  refine ⟨a, b, Utf8.lenient a, rfl, Utf8.strict?_of_replacement_not_mem fun hmem => ?_, hv⟩
  exact absurd (hv.1 _ (mem_opening hmem (by decide))) (by decide)

/-- An ill-formed line is passed over exactly if it does not begin with a word for a command. -/
theorem unknown_iff_not_led {l : List UInt8} (hl : Utf8.strict? l = none) :
    (∃ w, ofLine (Utf8.lenient l) = .unknown w) ↔ ¬ ∃ v, Led l v := by
  constructor
  · rintro ⟨w, hw⟩ ⟨v, hv⟩
    rw [ofLine_of_led hv] at hw
    cases hw
  · intro h
    refine ⟨_, ofLine_of_not_calls ?_⟩
    rintro ⟨v, hv⟩
    exact h ⟨v, led_of_calls_word hl hv⟩

end Reading

/-! ## Striking out lines -/

/-- Lines that say nothing can be struck out of a script. -/
theorem script_map_filter {keep : List UInt8 → Bool} {ls : List (List UInt8)}
    (h : ∀ l ∈ ls, keep l = false → ∃ w, Reading.ofLine (Utf8.lenient l) = .unknown w) :
    script ((ls.filter keep).map Utf8.lenient) = script (ls.map Utf8.lenient) := by
  induction ls with
  | nil => rfl
  | cons l ls ih =>
    have htail := ih fun m hm => h m (List.mem_cons_of_mem l hm)
    cases hl : keep l with
    | true =>
      rw [List.filter_cons_of_pos hl, List.map_cons, List.map_cons]
      unfold script at htail ⊢
      rw [List.filterMap_cons, List.filterMap_cons]
      cases (Reading.ofLine (Utf8.lenient l)).command? with
      | none => exact htail
      | some k =>
        simp only [untilQuit, htail]
    | false =>
      obtain ⟨w, hw⟩ := h l List.mem_cons_self hl
      rw [List.filter_cons_of_neg (Bool.not_eq_true _ ▸ hl), List.map_cons,
        script_cons_of_unknown hw, htail]

namespace Canvas

/-- **Ill-formed lines.** A line of a payload that is not well-formed UTF-8 is passed over exactly
if it does not begin with a word for a command and a space; if it does, the command is obeyed, with
what can be made of the number. The lines that are passed over can be struck out, all or some of
them, whatever the canvas: canvas, answers and verdict are what the other lines come to. -/
theorem process_without_ill_formed (payload : List UInt8) :
    (∀ l ∈ breakAt cr lf payload, Utf8.strict? l = none →
      ((∃ w, Reading.ofLine (Utf8.lenient l) = .unknown w) ↔ ¬ ∃ v, Led l v) ∧
      ∀ v, Led l v → Reading.ofLine (Utf8.lenient l) =
        .command (v.command (argument? (normal (Utf8.lenient l))))) ∧
    ∀ keep : List UInt8 → Bool,
      (∀ l ∈ breakAt cr lf payload, keep l = false → Utf8.strict? l = none ∧ ¬ ∃ v, Led l v) →
      ∀ c : Canvas,
        let kept := ((breakAt cr lf payload).filter keep).map Utf8.lenient
        let o := kept.foldl Progress.next (.start c)
        (c.process payload).canvas = o.canvas ∧ (c.process payload).output = o.output ∧
          (c.process payload).verdict = o.verdict := by
  refine ⟨fun l _ hl => ⟨Reading.unknown_iff_not_led hl, fun v hv => Reading.ofLine_of_led hv⟩, ?_⟩
  intro keep hkeep c kept o
  have hscript : script kept = script (payloadLines payload) := by
    rw [payloadLines_eq_map_lenient]
    refine script_map_filter fun l hl hstruck => ?_
    obtain ⟨hill, hled⟩ := hkeep l hl hstruck
    exact (Reading.unknown_iff_not_led hill).mpr hled
  have hall := c.after_process payload
  have hkept : (Progress.start c).After (script kept) o := Progress.after_foldl_next rfl kept
  rw [hscript] at hkept
  refine ⟨?_, ?_, ?_⟩
  · rw [hall.canvas, hkept.canvas]
  · rw [hall.output, hkept.output]
  · rw [hall.verdict, hkept.verdict]

/-- A byte that begins no character stands before the word of a line, which is passed over: the
answer is that to the line behind it. -/
theorem process_without_ill_formed_word :
    let l := 0xFF :: Utf8.encode "quit"
    let payload := l ++ cr :: lf :: Utf8.encode "coord"
    Utf8.strict? l = none ∧ (¬ ∃ v, Led l v) ∧
      (∃ w, Reading.ofLine (Utf8.lenient l) = .unknown w) ∧
      ((blank .usual).process payload).output = "(15,15)\r\n" ∧
      ((blank .usual).process payload).verdict = .goOn := by
  intro l payload
  have hlines : breakAt cr lf payload = [l, Utf8.encode "coord"] := by decide +kernel
  have hill : Utf8.strict? l = none := by decide +kernel
  have hunknown : ∃ w, Reading.ofLine (Utf8.lenient l) = .unknown w :=
    ⟨'\uFFFD' :: ['q', 'u', 'i', 't'], by decide +kernel⟩
  obtain ⟨hled, hstrike⟩ := process_without_ill_formed payload
  have hnot : ¬ ∃ v, Led l v := by
    refine ((hled l ?_ hill).1).mp hunknown
    rw [hlines]
    exact List.mem_cons_self
  have hkeep : ∀ m ∈ breakAt cr lf payload, (m != l) = false →
      Utf8.strict? m = none ∧ ¬ ∃ v, Led m v := by
    intro m _ hm
    rw [bne_eq_false_iff_eq] at hm
    rw [hm]
    exact ⟨hill, hnot⟩
  obtain ⟨-, houtput, hverdict⟩ := hstrike (· != l) hkeep (blank .usual)
  rw [hlines] at houtput hverdict
  refine ⟨hill, hnot, hunknown, ?_, ?_⟩
  · exact houtput.trans (by decide +kernel)
  · exact hverdict.trans (by decide +kernel)

/-- A byte that begins no character stands behind the word of each of two lines: the first has its
place reported all the same, and the second ends the session. -/
theorem ill_formed_line_obeyed :
    let l := Utf8.encode "coord " ++ [0xFF]
    let m := Utf8.encode "quit " ++ [0xFF]
    Utf8.strict? l = none ∧ Utf8.strict? m = none ∧
      breakAt cr lf (l ++ cr :: lf :: m ++ [cr, lf]) = [l, m, []] ∧
      Reading.ofLine (Utf8.lenient l) = .command .coord ∧
      Reading.ofLine (Utf8.lenient m) = .command .quit ∧
      ((blank .usual).process (l ++ cr :: lf :: m ++ [cr, lf])).output = "(15,15)\r\n" ∧
      ((blank .usual).process (l ++ cr :: lf :: m ++ [cr, lf])).verdict = .quit := by
  decide +kernel

end Canvas

end Plotter
