import Plotter.Proofs.Script
import Plotter.Proofs.Text.Decoding

/-!
# Payloads

A payload is decoded as a whole and then broken into lines. That its bytes can be broken first and
each line decoded on its own has been shown for the lines (`payloadLines_eq_map_lenient`); this file
draws the conclusion for sessions (`Canvas.process_ending`): a payload with the end of a line in it
is two payloads, run one after the other, whatever bytes stand next to that end.

Running lines from any progress is running them from the start and putting what was there before in
front (`Progress.foldl_next_eq_andThen`). Nothing but this is used of what lines do.
-/

namespace Plotter

open Text Framing

namespace Progress

/-- What comes of a progress when it is followed by what `f` makes of the canvas, unless the session
has ended: canvas and verdict are those of the second, which adds its output and its notes. -/
def andThen (p : Progress) (f : Canvas → Progress) : Progress :=
  match p.verdict with
  | .quit => p
  | .goOn =>
    { canvas := (f p.canvas).canvas
      output := p.output ++ (f p.canvas).output
      verdict := (f p.canvas).verdict
      journal := p.journal ++ (f p.canvas).journal }

variable {p : Progress}

/-- Nothing follows the end of the session. -/
theorem andThen_of_quit (h : p.verdict = .quit) (f : Canvas → Progress) : p.andThen f = p := by
  unfold andThen
  rw [h]

theorem andThen_of_goOn (h : p.verdict = .goOn) (f : Canvas → Progress) :
    p.andThen f =
      ⟨(f p.canvas).canvas, p.output ++ (f p.canvas).output, (f p.canvas).verdict,
        p.journal ++ (f p.canvas).journal⟩ := by
  unfold andThen
  rw [h]

/-- To be followed by a start is to be followed by nothing. -/
theorem andThen_start (p : Progress) : p.andThen start = p := by
  obtain ⟨canvas, output, verdict, journal⟩ := p
  cases verdict with
  | quit => exact andThen_of_quit rfl start
  | goOn =>
    rw [andThen_of_goOn rfl]
    simp [start]

/-- It makes no difference which two of three are taken together. -/
theorem andThen_andThen (p : Progress) (f g : Canvas → Progress) :
    (p.andThen f).andThen g = p.andThen fun c => (f c).andThen g := by
  cases hp : p.verdict with
  | quit => rw [andThen_of_quit hp, andThen_of_quit hp, andThen_of_quit hp]
  | goOn =>
    cases hf : (f p.canvas).verdict with
    | quit => simp only [andThen, hp, hf]
    | goOn => simp only [andThen, hp, hf, String.append_assoc, Array.append_assoc]

/-- A line is run from the start and what was there before is put in front. -/
theorem next_eq_andThen (p : Progress) (l : List Char) :
    p.next l = p.andThen fun c => (start c).next l := by
  cases hp : p.verdict with
  | quit =>
    rw [andThen_of_quit hp]
    simp only [next, hp]
  | goOn =>
    rw [andThen_of_goOn hp]
    rcases h : Reading.ofLine l with k | w
    · have hjournal : p.journal.push (.processing k) ++ p.canvas.notes k =
          p.journal ++ (#[Entry.processing k] ++ p.canvas.notes k) := by
        apply Array.ext'
        simp
      rw [next_of_command hp h, next_of_command rfl h]
      simp only [obey, start, String.empty_append, hjournal]
      rfl
    · rw [next_of_unknown hp h, next_of_unknown rfl h]
      cases w with
      | nil => exact (andThen_start p).symm.trans (andThen_of_goOn hp start)
      | cons a w => simp [ignore, start, hp]

/-- Lines are run from the start and what was there before is put in front. -/
theorem foldl_next_eq_andThen (p : Progress) (ls : List (List Char)) :
    ls.foldl next p = p.andThen fun c => ls.foldl next (start c) := by
  induction ls generalizing p with
  | nil => exact (andThen_start p).symm
  | cons l ls ih =>
    rw [List.foldl_cons, ih, next_eq_andThen, andThen_andThen]
    congr 1
    funext c
    rw [List.foldl_cons, ← ih]

end Progress

/-- A payload with the end of a line in it has the lines of what is before it and then those of what
is behind it. -/
theorem payloadLines_ending (a b : List UInt8) :
    payloadLines (a ++ cr :: lf :: b) = payloadLines a ++ payloadLines b := by
  simp only [payloadLines_eq_map_lenient]
  rw [breakAt_append_ending (by decide), List.map_append]

/-- A payload with the end of a line in it is two payloads, run one after the other. -/
theorem Canvas.process_ending (c : Canvas) (a b : List UInt8) :
    c.process (a ++ cr :: lf :: b) = (c.process a).andThen (·.process b) := by
  unfold process
  rw [payloadLines_ending, List.foldl_append, Progress.foldl_next_eq_andThen]

/-- **Bytes can be broken into lines before they are decoded.** The lines of a payload are the parts
of its bytes, each decoded on its own, where the parts are those which have no end of a line in them
and give back the bytes with one between each two. With the ends of lines between them, the lines of
a payload are what is decoded of the whole. And on any canvas, a payload with the end of a line in
it comes to what the bytes before that end come to, followed by those behind it unless the session
has ended. -/
theorem payloadLines_decoded_apart (payload : List UInt8) :
    (payloadLines payload = (breakAt cr lf payload).map Utf8.lenient ∧
        [cr, lf].intercalate (breakAt cr lf payload) = payload ∧
        ∀ part ∈ breakAt cr lf payload, Unbroken cr lf part) ∧
      crlf.intercalate (payloadLines payload) = Utf8.lenient payload ∧
      ∀ (c : Canvas) (a b : List UInt8),
        c.process (a ++ cr :: lf :: b) = (c.process a).andThen (·.process b) := by
  have hne : cr ≠ lf := by decide
  refine ⟨⟨payloadLines_eq_map_lenient payload, intercalate_breakAt hne payload, ?_⟩, ?_, ?_⟩
  · intro part hpart
    exact unbroken_of_mem_breakAt hne hpart
  · unfold payloadLines lines crlf
    exact intercalate_breakAt (by decide) _
  · intro c a b
    exact c.process_ending a b

/-- A character that is cut off before the end of a line is one report, and the line behind it is
read as it stands. -/
example : payloadLines [0x61, 0xE2, 0x82, cr, lf, 0x62] = [['a', '\uFFFD'], ['b']] := by decide

end Plotter
