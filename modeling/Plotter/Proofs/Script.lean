import Plotter.Session

/-!
# Scripts

What a session does with lines is told by the commands in them. A script is a list of commands; this
file says what a canvas becomes under one (`Canvas.obeyAll`), what it answers (`Canvas.answers`), and
which script given lines amount to (`script`): the commands that they give, in order, up to the first
that ends the session.

The main statement is `Progress.after_foldl_next`: running lines is obeying their script, each of its
commands once and in order, and nothing else. That each is obeyed once is read off the journal, in
which a session notes down every command before it obeys it (`obeyed`).
-/

namespace Plotter

open Text

/-! ## The script of lines -/

/-- The command that a line gives, if it gives one. -/
def Reading.command? : Reading → Option Command
  | .command k => some k
  | .unknown _ => none

/-- Commands up to the first that ends the session, that one included. -/
def untilQuit : List Command → List Command
  | [] => []
  | k :: ks => if k = .quit then [k] else k :: untilQuit ks

/-- The commands that lines give, up to the first that ends the session. -/
def script (lines : List (List Char)) : List Command :=
  untilQuit (lines.filterMap fun l => (Reading.ofLine l).command?)

@[simp] theorem script_nil : script [] = [] := rfl

theorem script_cons_of_unknown {l w : List Char} (h : Reading.ofLine l = .unknown w)
    (ls : List (List Char)) : script (l :: ls) = script ls := by
  simp [script, h, Reading.command?]

theorem script_cons_of_quit {l : List Char} (h : Reading.ofLine l = .command .quit)
    (ls : List (List Char)) : script (l :: ls) = [.quit] := by
  simp [script, h, Reading.command?, untilQuit]

theorem script_cons_of_command {l : List Char} {k : Command} (h : Reading.ofLine l = .command k)
    (hk : k ≠ .quit) (ls : List (List Char)) : script (l :: ls) = k :: script ls := by
  simp [script, h, Reading.command?, untilQuit, hk]

/-- Lines that say the same make the same script. -/
theorem script_cons_congr {l m : List Char} (h : Reading.ofLine l = Reading.ofLine m)
    (ls : List (List Char)) : script (l :: ls) = script (m :: ls) := by
  unfold script
  rw [List.filterMap_cons, List.filterMap_cons, h]

/-- What follows a script counts only if the script does not end the session. -/
theorem untilQuit_append (ks ls : List Command) :
    untilQuit (ks ++ ls) =
      if .quit ∈ untilQuit ks then untilQuit ks else untilQuit ks ++ untilQuit ls := by
  induction ks with
  | nil => simp [untilQuit]
  | cons k ks ih =>
    by_cases hk : k = .quit
    · simp [untilQuit, hk]
    · have hq : ¬ Command.quit = k := fun h => hk h.symm
      simp only [List.cons_append, untilQuit, if_neg hk, ih, List.mem_cons, hq, false_or]
      split <;> rfl

/-- The lines that follow others count only if those do not end the session. -/
theorem script_append (ls ms : List (List Char)) :
    script (ls ++ ms) = if .quit ∈ script ls then script ls else script ls ++ script ms := by
  simp only [script, List.filterMap_append]
  exact untilQuit_append _ _

/-- A line that says nothing can be struck out between others. -/
theorem script_append_cons_of_unknown {l w : List Char} (h : Reading.ofLine l = .unknown w)
    (ls ms : List (List Char)) : script (ls ++ l :: ms) = script (ls ++ ms) := by
  rw [script_append, script_append, script_cons_of_unknown h]

/-- Commands end the session if one of them does, whatever comes before it. -/
theorem quit_mem_untilQuit {ks : List Command} : .quit ∈ untilQuit ks ↔ .quit ∈ ks := by
  induction ks with
  | nil => rfl
  | cons k ks ih =>
    by_cases hk : k = .quit
    · simp [untilQuit, hk]
    · have hq : ¬ Command.quit = k := fun h => hk h.symm
      simp only [untilQuit, if_neg hk, List.mem_cons, hq, false_or, ih]

/-- Lines end the session exactly if one of them says so. -/
theorem quit_mem_script {ls : List (List Char)} :
    .quit ∈ script ls ↔ ∃ l ∈ ls, Reading.ofLine l = .command .quit := by
  rw [script, quit_mem_untilQuit, List.mem_filterMap]
  constructor
  · rintro ⟨l, hl, h⟩
    refine ⟨l, hl, ?_⟩
    rcases hr : Reading.ofLine l with k | w
    · rw [hr] at h
      rw [Option.some.inj h]
    · rw [hr] at h
      cases h
  · rintro ⟨l, hl, h⟩
    exact ⟨l, hl, by rw [h]; rfl⟩

/-! ## Obeying a script -/

namespace Canvas

/-- The canvas after commands, one after the other. -/
def obeyAll (c : Canvas) (ks : List Command) : Canvas := ks.foldl obey c

/-- The answers of a canvas to commands, one after the other. -/
def answers : Canvas → List Command → String
  | _, [] => ""
  | c, k :: ks => c.answer k ++ (c.obey k).answers ks

@[simp] theorem obeyAll_nil (c : Canvas) : c.obeyAll [] = c := rfl

@[simp] theorem obeyAll_cons (c : Canvas) (k : Command) (ks : List Command) :
    c.obeyAll (k :: ks) = (c.obey k).obeyAll ks := rfl

theorem obeyAll_append (c : Canvas) (ks ls : List Command) :
    c.obeyAll (ks ++ ls) = (c.obeyAll ks).obeyAll ls :=
  List.foldl_append

theorem answers_append (c : Canvas) (ks ls : List Command) :
    c.answers (ks ++ ls) = c.answers ks ++ (c.obeyAll ks).answers ls := by
  induction ks generalizing c with
  | nil => simp [answers]
  | cons k ks ih => simp only [List.cons_append, answers, ih, obeyAll_cons, String.append_assoc]

end Canvas

/-! ## The commands in a journal -/

/-- The command whose obeying an entry notes down, if it does. -/
def Entry.command? : Entry → Option Command
  | .processing k => some k
  | _ => none

/-- The commands that were obeyed according to a journal, in order. -/
def obeyed (journal : Array Entry) : List Command := journal.toList.filterMap Entry.command?

theorem obeyed_append (a b : Array Entry) : obeyed (a ++ b) = obeyed a ++ obeyed b := by
  rw [obeyed, Array.toList_append, List.filterMap_append]
  rfl

theorem obeyed_push {e : Entry} (h : e.command? = none) (journal : Array Entry) :
    obeyed (journal.push e) = obeyed journal := by
  simp [obeyed, h]

/-- What a canvas notes down while it obeys a command is no command of its own. -/
theorem filterMap_notes (c : Canvas) (k : Command) : (c.notes k).filterMap Entry.command? = [] := by
  cases k with
  | clear =>
    simp only [Canvas.notes]
    split <;> rfl
  | _ => rfl

namespace Progress

/-- The progress `q` is what comes of `p` when a script is obeyed. -/
structure After (p : Progress) (ks : List Command) (q : Progress) : Prop where
  /-- The canvas has obeyed the script. -/
  canvas : q.canvas = p.canvas.obeyAll ks
  /-- The answers have been added to the output. -/
  output : q.output = p.output ++ p.canvas.answers ks
  /-- The session has ended if the script says so. -/
  verdict : q.verdict = if .quit ∈ ks then .quit else p.verdict
  /-- Each command has been noted down. -/
  obeyed : obeyed q.journal = obeyed p.journal ++ ks

theorem After.refl (p : Progress) : p.After [] p where
  canvas := rfl
  output := by simp [Canvas.answers]
  verdict := rfl
  obeyed := by simp

/-- One script after the other. -/
theorem After.trans {p q r : Progress} {ks ls : List Command} (h₁ : p.After ks q)
    (h₂ : q.After ls r) : p.After (ks ++ ls) r where
  canvas := by rw [h₂.canvas, h₁.canvas, Canvas.obeyAll_append]
  output := by
    rw [h₂.output, h₁.output, h₁.canvas, Canvas.answers_append, String.append_assoc]
  verdict := by
    rw [h₂.verdict, h₁.verdict]
    by_cases hk : .quit ∈ ks <;> by_cases hl : .quit ∈ ls <;> simp [hk, hl]
  obeyed := by rw [h₂.obeyed, h₁.obeyed, List.append_assoc]

/-- A command is a script of its own. -/
theorem after_obey {p : Progress} (hp : p.verdict = .goOn) (k : Command) :
    p.After [k] (p.obey k) where
  canvas := rfl
  output := by simp [Canvas.answers, obey]
  verdict := by
    have hq : .quit ∈ [k] ↔ k = .quit := by rw [List.mem_singleton, eq_comm]
    simp only [hq, hp]
    rfl
  obeyed := by
    simp [Plotter.obeyed, obey, List.filterMap_append, filterMap_notes, Entry.command?]

/-- A word that calls no command is an empty script. -/
theorem after_ignore (p : Progress) (w : List Char) : p.After [] (p.ignore w) := by
  cases w with
  | nil => exact After.refl p
  | cons a w =>
    refine ⟨rfl, (After.refl p).output, rfl, ?_⟩
    simp [Plotter.obeyed, ignore, Entry.command?]

theorem next_of_command {p : Progress} (hp : p.verdict = .goOn) {l : List Char} {k : Command}
    (h : Reading.ofLine l = .command k) : p.next l = p.obey k := by
  simp only [next, hp, h]

theorem next_of_unknown {p : Progress} (hp : p.verdict = .goOn) {l w : List Char}
    (h : Reading.ofLine l = .unknown w) : p.next l = p.ignore w := by
  simp only [next, hp, h]

/-- After the end of the session lines are not run. -/
theorem foldl_next_of_quit {p : Progress} (hp : p.verdict = .quit) (ls : List (List Char)) :
    ls.foldl next p = p := by
  induction ls with
  | nil => rfl
  | cons l ls ih =>
    have hl : p.next l = p := by simp only [next, hp]
    rw [List.foldl_cons, hl, ih]

/-- **Running lines is obeying their script.** -/
theorem after_foldl_next {p : Progress} (hp : p.verdict = .goOn) (ls : List (List Char)) :
    p.After (script ls) (ls.foldl next p) := by
  induction ls generalizing p with
  | nil => exact After.refl p
  | cons l ls ih =>
    rw [List.foldl_cons]
    rcases h : Reading.ofLine l with k | w
    · have hobey := after_obey hp k
      rw [next_of_command hp h]
      by_cases hk : k = .quit
      · subst hk
        have hq : (p.obey .quit).verdict = .quit := hobey.verdict
        rw [script_cons_of_quit h, foldl_next_of_quit hq]
        exact hobey
      · have hg : (p.obey k).verdict = .goOn := if_neg hk
        rw [script_cons_of_command h hk]
        exact hobey.trans (ih hg)
    · have hignore := after_ignore p w
      rw [next_of_unknown hp h, script_cons_of_unknown h]
      exact hignore.trans (ih (hignore.verdict.trans hp))

end Progress

/-- Processing a payload is obeying the script of its lines. -/
theorem Canvas.after_process (c : Canvas) (payload : List UInt8) :
    (Progress.start c).After (script (payloadLines payload)) (c.process payload) :=
  Progress.after_foldl_next rfl _

/-- A payload that gives such commands and does not end the session is obeyed and answered so. -/
theorem Canvas.process_of_script {payload : List UInt8} {ks : List Command}
    (h : script (payloadLines payload) = ks) (hquit : .quit ∉ ks) (c : Canvas) :
    (c.process payload).canvas = c.obeyAll ks ∧ (c.process payload).output = c.answers ks ∧
      (c.process payload).verdict = .goOn := by
  have hafter := c.after_process payload
  rw [h] at hafter
  refine ⟨hafter.canvas, ?_, hafter.verdict.trans (if_neg hquit)⟩
  rw [hafter.output]
  exact String.empty_append

end Plotter
