import Plotter.Connection
import Plotter.Proofs.Framing
import Plotter.Proofs.Script
import Plotter.Proofs.Text.Decoding

/-!
# Delivery

What a connection makes of a stream does not depend on how the network cuts it. The statement is
`Connection.run_of_delivers`: if no call fails, every line feed follows a carriage return and no
terminated line is too long, then what is written is the greeting and the answers of one session to
the script of the terminated lines, however the bytes were cut into pieces.

The invariant is about what waits together with what is still to come (`Connection.Awaits`): the
lines terminated in both are those that the session has yet to run. A piece that arrives moves bytes
from the second to the first and runs the lines that it terminates (`Connection.Awaits.received`).

Writes may take any part of what they are given, as long as they take something. Faults are not the
matter of this file.
-/

namespace Plotter

open Text Framing

/-! ## Streams without faults -/

namespace Stream

/-- No call on the stream fails, and every write takes something. -/
structure Faultless (s : Stream) : Prop where
  /-- No write fails. -/
  writeFaults : s.writeFaults = []
  /-- Every write takes something. -/
  writeLimit : s.writeLimit ≠ some 0
  /-- The closing does not fail. -/
  closingFault : s.closingFault = none

/-- Without faults, the stream delivers these bytes in pieces, none of them empty and none of them
larger than a read, and then ends. -/
def Delivers (s : Stream) (bytes : List UInt8) : Prop :=
  s.Faultless ∧ ∃ pieces : List (List UInt8),
    s.reads = pieces.map .bytes ∧ (∀ p ∈ pieces, p ≠ [] ∧ p.length ≤ readSize) ∧
      pieces.flatten = bytes

/-- Without faults, the stream brings these pieces, none of them empty, and then ends. -/
structure Brings (s : Stream) (pieces : List (List UInt8)) : Prop where
  faultless : s.Faultless
  reads : s.reads = pieces.map .bytes
  ne_nil : ∀ p ∈ pieces, p ≠ []

variable {s : Stream}

theorem Faultless.writeFault? (h : s.Faultless) (call : Nat) : s.writeFault? call = none := by
  rw [Stream.writeFault?, h.writeFaults]
  rfl

theorem Faultless.taken_ne_zero (h : s.Faultless) {given : List UInt8} (hne : given ≠ []) :
    s.taken given ≠ 0 := by
  have hlength : given.length ≠ 0 := mt List.length_eq_zero_iff.1 hne
  have hlimit := h.writeLimit
  unfold taken
  split
  · exact hlength
  · next n hn =>
    have hn0 : n ≠ 0 := fun h0 => hlimit (by rw [hn, h0])
    omega

end Stream

/-! ## The script of a stream -/

/-- The script of the terminated lines of bytes, each decoded on its own. -/
def streamScript (bytes : List UInt8) : List Command :=
  script ((terminatedLines bytes).map Utf8.lenient)

theorem streamScript_of_unbroken {bytes : List UInt8} (h : Unbroken cr lf bytes) :
    streamScript bytes = [] := by
  rw [streamScript, terminatedLines_of_unbroken h]
  rfl

/-- A payload that ends where the last line of some bytes ends has the script of these bytes. The
empty line behind its end says nothing. -/
theorem script_payloadLines_of_ending (a : List UInt8) {b : List UInt8} (hb : Unbroken cr lf b) :
    script (payloadLines (a ++ [cr, lf])) = streamScript (a ++ cr :: lf :: b) := by
  have hempty : script [Utf8.lenient []] = [] := by decide
  rw [payloadLines_eq_map_lenient, breakAt_append_ending cr_ne_lf, List.map_append,
    breakAt_of_unbroken (unbroken_nil cr lf), List.map_singleton, script_append, hempty,
    List.append_nil, ite_self, streamScript, terminatedLines_append_ending,
    terminatedLines_of_unbroken hb, List.append_nil]

/-- A payload that ends in the end of a line has the script of the lines before it. -/
theorem script_payloadLines_ending (a : List UInt8) :
    script (payloadLines (a ++ [cr, lf])) = script ((breakAt cr lf a).map Utf8.lenient) := by
  rw [script_payloadLines_of_ending a (unbroken_nil cr lf), streamScript,
    terminatedLines_append_ending, terminatedLines_of_unbroken (unbroken_nil cr lf), List.append_nil]

namespace Connection

variable {s : Stream} {x y z : Connection}

/-! ## Writing -/

theorem output_record_written (x : Connection) (bytes : List UInt8) :
    (x.record (.written bytes)).output = x.output ++ bytes := by
  simp [record, output]

theorem output_record_read (x : Connection) (n : Nat) : (x.record (.read n)).output = x.output := by
  simp [record, output]

theorem output_record_closed (x : Connection) : (x.record .closed).output = x.output := by
  simp [record, output]

/-- The connection `y` is what comes of `x` when bytes have been written, and nothing else. -/
structure Sent (x : Connection) (bytes : List UInt8) (y : Connection) : Prop where
  canvas : y.canvas = x.canvas
  waiting : y.waiting = x.waiting
  status : y.status = x.status
  journal : y.journal = x.journal
  /-- The bytes have been added to the output. -/
  output : y.output = x.output ++ bytes
  /-- The stream has not been closed by it. -/
  closed : .closed ∈ y.events ↔ .closed ∈ x.events

theorem Sent.refl (x : Connection) : x.Sent [] x where
  canvas := rfl
  waiting := rfl
  status := rfl
  journal := rfl
  output := (List.append_nil _).symm
  closed := Iff.rfl

theorem Sent.trans {a b : List UInt8} (h₁ : x.Sent a y) (h₂ : y.Sent b z) : x.Sent (a ++ b) z where
  canvas := h₂.canvas.trans h₁.canvas
  waiting := h₂.waiting.trans h₁.waiting
  status := h₂.status.trans h₁.status
  journal := h₂.journal.trans h₁.journal
  output := by rw [h₂.output, h₁.output, List.append_assoc]
  closed := h₂.closed.trans h₁.closed

theorem sent_wrote (x : Connection) (bytes : List UInt8) : x.Sent bytes (x.wrote bytes) where
  canvas := rfl
  waiting := rfl
  status := rfl
  journal := rfl
  output := output_record_written x bytes
  closed := by simp [wrote, record]

/-- Without faults all is written, by however many calls. -/
theorem sent_send (hs : s.Faultless) (x : Connection) (bytes : List UInt8) :
    x.Sent bytes (send s x bytes) := by
  fun_induction send s x bytes with
  | case1 x => exact Sent.refl x
  | case2 x bytes _ f hf => rw [hs.writeFault?] at hf; cases hf
  | case3 x bytes hne _ n y hn => exact absurd hn (hs.taken_ne_zero hne)
  | case4 x bytes hne _ n y hn ih =>
    have h := (sent_wrote x (bytes.take n)).trans ih
    rwa [List.take_append_drop] at h

/-! ## Serving -/

/-- The connection `y` is what comes of `x` when a script has been obeyed and answered, and the
stream closed if the script ends the session. -/
structure Served (x : Connection) (ks : List Command) (y : Connection) : Prop where
  /-- The canvas has obeyed the script. -/
  canvas : y.canvas = x.canvas.obeyAll ks
  /-- The answers have been added to the output. -/
  output : y.output = x.output ++ Utf8.encode (x.canvas.answers ks)
  /-- Each command has been obeyed once. -/
  obeyed : obeyed y.journal = obeyed x.journal ++ ks
  /-- The connection is over if the script ends the session. -/
  status : y.status = if .quit ∈ ks then .over else x.status
  /-- The stream has been closed if the script ends the session. -/
  closed : .closed ∈ y.events ↔ .closed ∈ x.events ∨ .quit ∈ ks

theorem Served.trans {ks ls : List Command} (h₁ : x.Served ks y) (h₂ : y.Served ls z) :
    x.Served (ks ++ ls) z where
  canvas := by rw [h₂.canvas, h₁.canvas, Canvas.obeyAll_append]
  output := by
    rw [h₂.output, h₁.output, h₁.canvas, Canvas.answers_append, Utf8.encode_append,
      List.append_assoc]
  obeyed := by rw [h₂.obeyed, h₁.obeyed, List.append_assoc]
  status := by
    rw [h₂.status, h₁.status]
    by_cases hk : .quit ∈ ks <;> by_cases hl : .quit ∈ ls <;> simp [hk, hl]
  closed := by rw [h₂.closed, h₁.closed, List.mem_append, or_assoc]

/-- What obeys nothing, writes nothing and leaves the stream open serves the empty script. -/
theorem served_nil (hcanvas : y.canvas = x.canvas) (houtput : y.output = x.output)
    (hobeyed : Plotter.obeyed y.journal = Plotter.obeyed x.journal) (hstatus : y.status = x.status)
    (hclosed : .closed ∈ y.events ↔ .closed ∈ x.events) : x.Served [] y where
  canvas := hcanvas
  output := by rw [houtput, Canvas.answers, Utf8.encode_empty, List.append_nil]
  obeyed := by rw [hobeyed, List.append_nil]
  status := hstatus
  closed := by rw [hclosed]; simp

theorem served_record_read (x : Connection) (n : Nat) : x.Served [] (x.record (.read n)) :=
  served_nil rfl (output_record_read x n) rfl rfl (by simp [record])

/-- The connection after what has been run is taken over, before it is answered. -/
def took (x : Connection) (o : Progress) : Connection :=
  { x with canvas := o.canvas, journal := x.journal ++ o.journal }

theorem answer_of_goOn {o : Progress} (ho : o.verdict = .goOn) :
    answer s x o = send s (x.took o) (Utf8.encode o.output) := by
  unfold answer
  rw [ho]
  dsimp only
  split
  · next h => cases h
  · rfl

theorem answer_of_quit {o : Progress} (ho : o.verdict = .quit)
    (hgoing : (send s (x.took o) (Utf8.encode o.output)).status = .going) :
    answer s x o = close s (send s (x.took o) (Utf8.encode o.output)) := by
  rw [took] at hgoing ⊢
  simp only [answer, ho, hgoing]

/-- What has been run is answered, and the stream is closed if the session has ended. -/
theorem served_answer (hs : s.Faultless) (hx : x.status = .going) {ks : List Command} {o : Progress}
    (ho : (Progress.start x.canvas).After ks o) :
    x.Served ks (answer s x o) ∧ (answer s x o).waiting = x.waiting := by
  have hsent := sent_send hs (x.took o) (Utf8.encode o.output)
  have hcanvas := hsent.canvas.trans ho.canvas
  have houtput : (send s (x.took o) (Utf8.encode o.output)).output =
      x.output ++ Utf8.encode (x.canvas.answers ks) := by
    rw [hsent.output, ho.output, Progress.start, String.empty_append]
    rfl
  have hobeyed : obeyed (send s (x.took o) (Utf8.encode o.output)).journal =
      obeyed x.journal ++ ks := by
    have hjournal : obeyed o.journal = ks := ho.obeyed
    rw [hsent.journal, took, obeyed_append, hjournal]
  by_cases hq : .quit ∈ ks
  · rw [answer_of_quit (ho.verdict.trans (if_pos hq)) (hsent.status.trans hx), close,
      hs.closingFault]
    refine ⟨⟨hcanvas, ?_, hobeyed, (if_pos hq).symm, ?_⟩, hsent.waiting⟩
    · exact (output_record_closed _).trans houtput
    · simp [record, hq]
  · rw [answer_of_goOn (ho.verdict.trans (if_neg hq))]
    refine ⟨⟨hcanvas, houtput, hobeyed, ?_, ?_⟩, hsent.waiting⟩
    · rw [if_neg hq]
      exact hsent.status
    · rw [hsent.closed, or_iff_left hq]
      rfl

/-! ## Receiving -/

/-- An open connection that will receive so many more bytes: no line ends in what waits, and what
waits together with what is to come is a stream of short lines. -/
structure Awaits (x : Connection) (more : List UInt8) : Prop where
  /-- The connection is open. -/
  going : x.status = .going
  /-- No line ends in what waits. -/
  waiting : Unbroken cr lf x.waiting
  /-- Waiting and coming bytes are a stream of short lines. -/
  framed : Framed (x.waiting ++ more)

/-- The connection `y` is what comes of `x` when a piece has arrived and so many more bytes are to
come. -/
structure Received (x : Connection) (piece more : List UInt8) (y : Connection) : Prop where
  /-- The lines that the piece terminates have been run. -/
  served : x.Served (streamScript (x.waiting ++ piece)) y
  /-- The lines that are still to be terminated are those of what waits now and what is to come. -/
  lines : terminatedLines (x.waiting ++ (piece ++ more)) =
    terminatedLines (x.waiting ++ piece) ++ terminatedLines (y.waiting ++ more)
  /-- No line ends in what waits now. -/
  waiting : Unbroken cr lf y.waiting
  /-- Waiting and coming bytes are a stream of short lines. -/
  framed : Framed (y.waiting ++ more)

theorem receive_of_run {piece payload rest : List UInt8}
    (h : settle (x.waiting ++ piece) = .run payload rest) :
    x.receive s piece = answer s { x with waiting := rest } (x.canvas.process payload) := by
  rw [receive, h]

theorem receive_of_wait {piece bytes : List UInt8} (h : settle (x.waiting ++ piece) = .wait bytes) :
    x.receive s piece = { x with waiting := bytes } := by
  rw [receive, h]

theorem receive_of_drop {piece bytes : List UInt8} (h : settle (x.waiting ++ piece) = .drop bytes) :
    x.receive s piece =
      { x with waiting := [], journal := x.journal.push (.discarding bytes.length) } := by
  rw [receive, h]

/-- A payload that is made of whole lines is run and answered, and the rest waits. -/
theorem served_receive_of_run (hs : s.Faultless) (hx : x.status = .going)
    {piece payload rest : List UInt8} (h : settle (x.waiting ++ piece) = .run payload rest) :
    x.Served (script (payloadLines payload)) (x.receive s piece) ∧
      (x.receive s piece).waiting = rest := by
  obtain ⟨hserved, hwaiting⟩ :=
    served_answer (x := { x with waiting := rest }) hs hx (x.canvas.after_process payload)
  rw [receive_of_run h]
  exact ⟨⟨hserved.canvas, hserved.output, hserved.obeyed, hserved.status, hserved.closed⟩, hwaiting⟩

namespace Awaits

variable {piece more : List UInt8}

/-- Where no line ends and all may wait, all waits. -/
theorem received_of_wait (h : x.Awaits (piece ++ more)) (hu : Unbroken cr lf (x.waiting ++ piece))
    (hshort : ¬ maxWaiting < (x.waiting ++ piece).length) :
    x.Received piece more (x.receive s piece) := by
  have hframed := h.framed
  rw [← List.append_assoc] at hframed
  have hwait := hframed.carried.left.settle_of_unbroken hu
  rw [receive_of_wait (hwait.trans (if_neg hshort))]
  refine ⟨?_, ?_, hu, hframed⟩
  · rw [streamScript_of_unbroken hu]
    exact served_nil rfl rfl rfl rfl Iff.rfl
  · rw [terminatedLines_of_unbroken hu, List.append_assoc, List.nil_append]

/-- Where no line ends and all is more than may wait, all is dropped. Nothing of a terminated line
is among it, since then no line is terminated in what is to come either. -/
theorem received_of_drop (h : x.Awaits (piece ++ more)) (hu : Unbroken cr lf (x.waiting ++ piece))
    (hlong : maxWaiting < (x.waiting ++ piece).length) :
    x.Received piece more (x.receive s piece) := by
  have hframed := h.framed
  rw [← List.append_assoc] at hframed
  have hdrop := hframed.carried.left.settle_of_unbroken hu
  have hall := hframed.unbroken_of_long hu hlong
  have hlf : lf ∉ more := fun hmem =>
    hframed.carried.not_mem hall (List.mem_append_right _ hmem)
  rw [receive_of_drop (hdrop.trans (if_pos hlong))]
  refine ⟨?_, ?_, unbroken_nil cr lf, Framed.of_unbroken (carried_of_not_mem hlf) hall.right⟩
  · rw [streamScript_of_unbroken hu]
    exact served_nil rfl rfl (obeyed_push rfl x.journal) rfl Iff.rfl
  · rw [terminatedLines_of_unbroken hu, ← List.append_assoc, terminatedLines_of_unbroken hall]
    exact (terminatedLines_of_unbroken hall.right).symm

/-- Where a line ends, all up to the last end of a line is run, and the rest waits. -/
theorem received_of_run (hs : s.Faultless) (h : x.Awaits (piece ++ more))
    (hu : ¬ Unbroken cr lf (x.waiting ++ piece)) : x.Received piece more (x.receive s piece) := by
  have hframed := h.framed
  rw [← List.append_assoc] at hframed
  obtain ⟨a, b, hab, hb, hrun⟩ := hframed.carried.left.settle_of_not_unbroken hu
  obtain ⟨hserved, hwaiting⟩ := served_receive_of_run hs h.going hrun
  rw [script_payloadLines_of_ending a hb, ← hab] at hserved
  have hcut : x.waiting ++ piece ++ more = a ++ cr :: lf :: (b ++ more) := by
    rw [hab]
    simp
  rw [hcut] at hframed
  refine ⟨hserved, ?_, ?_, ?_⟩
  · rw [← List.append_assoc, hcut, hab, hwaiting, terminatedLines_append_ending,
      terminatedLines_append_ending, terminatedLines_of_unbroken hb, List.append_nil]
  · rw [hwaiting]
    exact hb
  · rw [hwaiting]
    exact hframed.rest

/-- **One piece.** When a piece arrives, the lines that it terminates are run, and all others are
still to be run. -/
theorem received (hs : s.Faultless) (h : x.Awaits (piece ++ more)) :
    x.Received piece more (x.receive s piece) := by
  by_cases hu : Unbroken cr lf (x.waiting ++ piece)
  · by_cases hlong : maxWaiting < (x.waiting ++ piece).length
    · exact h.received_of_drop hu hlong
    · exact h.received_of_wait hu hlong
  · exact h.received_of_run hs hu

end Awaits

/-! ## The run of a connection -/

/-- First the lines that one read completes are served, and then those of the other reads, unless
the session has ended. -/
theorem Served.foldl_next (hx : x.status = .going) {ls ms : List (List Char)}
    (h : x.Served (script ls) y) {reads : List Delivery}
    (hrest : y.status = .going → y.Served (script ms) (reads.foldl (next s) y)) :
    x.Served (script (ls ++ ms)) (reads.foldl (next s) y) := by
  rw [script_append]
  split
  · next hq =>
    have hover := h.status.trans (if_pos hq)
    rw [foldl_next_of_not_going s (by simp [hover])]
    exact h
  · next hq =>
    have hgoing := (h.status.trans (if_neg hq)).trans hx
    exact h.trans (hrest hgoing)

/-- **All pieces.** When all pieces have arrived, the lines terminated in them have been run, up to
the first that ends the session. -/
theorem Awaits.served (hs : s.Faultless) {pieces : List (List UInt8)}
    (hpieces : ∀ p ∈ pieces, p ≠ []) (h : x.Awaits pieces.flatten) :
    x.Served (streamScript (x.waiting ++ pieces.flatten))
      ((pieces.map Delivery.bytes).foldl (next s) x) := by
  induction pieces generalizing x with
  | nil =>
    rw [List.flatten_nil, List.append_nil, streamScript_of_unbroken h.waiting]
    exact served_nil rfl rfl rfl rfl Iff.rfl
  | cons piece pieces ih =>
    have hread := served_record_read x piece.length
    have hawaits : (x.record (.read piece.length)).Awaits (piece ++ pieces.flatten) :=
      ⟨h.going, h.waiting, h.framed⟩
    have hreceived := hawaits.received hs
    have hserved := hread.trans hreceived.served
    rw [List.nil_append] at hserved
    rw [List.map_cons, List.foldl_cons,
      next_bytes_of_going s h.going (hpieces piece List.mem_cons_self), List.flatten_cons,
      streamScript,
      show terminatedLines (x.waiting ++ (piece ++ pieces.flatten)) = _ from hreceived.lines,
      List.map_append]
    refine hserved.foldl_next h.going fun hgoing => ?_
    exact ih (fun p hp => hpieces p (List.mem_cons_of_mem piece hp))
      ⟨hgoing, hreceived.waiting, hreceived.framed⟩

/-- A connection whose session has begun, before anything has been written. -/
def begun (setup : Setup) : Connection :=
  ⟨Canvas.blank setup, [], 0, .going, #[], (Canvas.blank setup).birthNotes.toArray⟩

/-- The greeting is all that is written before the first read. -/
theorem sent_greet (hs : s.Faultless) (setup : Setup) :
    (begun setup).Sent (Utf8.encode greeting) (greet setup s) := by
  have hsent := sent_send hs ⟨Canvas.blank setup, [], 0, .going, #[], #[]⟩ (Utf8.encode greeting)
  simp only [greet, hsent.status]
  refine ⟨hsent.canvas, hsent.waiting, rfl, ?_, hsent.output, hsent.closed⟩
  rw [hsent.journal]
  rfl

theorem obeyed_begun (setup : Setup) : obeyed (begun setup).journal = [] := rfl

/-- At the end of the stream a connection that has served a script is over. -/
theorem next_end_of_served {ks : List Command} (hx : x.status = .going) (h : x.Served ks y) :
    (next s y (.bytes [])).canvas = y.canvas ∧ (next s y (.bytes [])).output = y.output ∧
      obeyed (next s y (.bytes [])).journal = obeyed y.journal ∧
      (.closed ∈ (next s y (.bytes [])).events ↔ .closed ∈ y.events) ∧
      (next s y (.bytes [])).status = .over := by
  by_cases hq : .quit ∈ ks
  · have hover := h.status.trans (if_pos hq)
    rw [next_of_not_going s (by simp [hover])]
    exact ⟨rfl, rfl, rfl, Iff.rfl, hover⟩
  · rw [next_end_of_going s ((h.status.trans (if_neg hq)).trans hx)]
    exact ⟨rfl, output_record_read y 0, obeyed_push rfl y.journal, by simp [record], rfl⟩

/-- What a whole run comes to whose reads serve a script. -/
theorem run_of_served (setup : Setup) (hs : s.Faultless) {ks : List Command}
    (hserved : (greet setup s).Served ks (s.reads.foldl (next s) (greet setup s))) :
    (run setup s).output =
        Utf8.encode greeting ++ Utf8.encode ((Canvas.blank setup).answers ks) ∧
      (run setup s).canvas = (Canvas.blank setup).obeyAll ks ∧
      obeyed (run setup s).journal = ks ∧
      (.closed ∈ (run setup s).events ↔ .quit ∈ ks) ∧
      (run setup s).status = .over := by
  have hgreet := sent_greet hs setup
  obtain ⟨hcanvas, houtput, hobeyed, hclosed, hover⟩ :=
    next_end_of_served (s := s) hgreet.status hserved
  unfold run
  refine ⟨houtput.trans ?_, hcanvas.trans ?_, hobeyed.trans ?_, hclosed.trans ?_, hover⟩
  · rw [hserved.output, hgreet.output, hgreet.canvas]
    rfl
  · rw [hserved.canvas, hgreet.canvas]
    rfl
  · rw [hserved.obeyed, hgreet.journal, obeyed_begun, List.nil_append]
  · have hopen : .closed ∉ (greet setup s).events := by
      rw [hgreet.closed]
      exact Array.not_mem_empty _
    rw [hserved.closed, or_iff_right hopen]

/-- What the pieces of a stream of short lines serve. -/
theorem served_of_brings (setup : Setup) {pieces : List (List UInt8)} (hs : s.Brings pieces)
    (hbytes : Framed pieces.flatten) :
    (greet setup s).Served (streamScript pieces.flatten)
      (s.reads.foldl (next s) (greet setup s)) := by
  have hgreet := sent_greet hs.faultless setup
  have hawaits : (greet setup s).Awaits pieces.flatten := by
    refine ⟨hgreet.status, ?_, ?_⟩
    · rw [hgreet.waiting]
      exact unbroken_nil cr lf
    · rw [hgreet.waiting]
      exact hbytes
  have hserved := hawaits.served hs.faultless hs.ne_nil
  rw [hgreet.waiting] at hserved
  rw [hs.reads]
  exact hserved

/-- What a whole run comes to. -/
theorem run_eq (setup : Setup) {bytes : List UInt8} (hbytes : Framed bytes)
    (hs : s.Delivers bytes) :
    (run setup s).output =
        Utf8.encode greeting ++ Utf8.encode ((Canvas.blank setup).answers (streamScript bytes)) ∧
      (run setup s).canvas = (Canvas.blank setup).obeyAll (streamScript bytes) ∧
      obeyed (run setup s).journal = streamScript bytes ∧
      (.closed ∈ (run setup s).events ↔ .quit ∈ streamScript bytes) ∧
      (run setup s).status = .over := by
  obtain ⟨hfaultless, pieces, hreads, hpieces, rfl⟩ := hs
  have hbrings : s.Brings pieces := ⟨hfaultless, hreads, fun p hp => (hpieces p hp).1⟩
  exact run_of_served setup hfaultless (served_of_brings setup hbrings hbytes)

/-- **Cutting makes no difference.** If no call fails, every line feed follows a carriage return and
no terminated line is too long, then, however the bytes are cut into pieces: what is written is the
greeting and the answers of one session to the script of the terminated lines; that script has been
obeyed, each of its commands once, and nothing else; the stream has been closed exactly if a
terminated line ends the session; and all went well. -/
theorem run_of_delivers (setup : Setup) {bytes : List UInt8} (hbytes : Framed bytes)
    (hs : s.Delivers bytes) :
    (run setup s).output =
        Utf8.encode greeting ++ Utf8.encode ((Canvas.blank setup).answers (streamScript bytes)) ∧
      (run setup s).canvas = (Canvas.blank setup).obeyAll (streamScript bytes) ∧
      obeyed (run setup s).journal = streamScript bytes ∧
      (.closed ∈ (run setup s).events ↔
        ∃ l ∈ terminatedLines bytes, Reading.ofLine (Utf8.lenient l) = .command .quit) ∧
      (run setup s).status = .over ∧
      ∀ t : Stream, t.Delivers bytes → (run setup t).output = (run setup s).output := by
  obtain ⟨houtput, hcanvas, hobeyed, hclosed, hover⟩ := run_eq setup hbytes hs
  refine ⟨houtput, hcanvas, hobeyed, ?_, hover, fun t ht => ?_⟩
  · rw [hclosed, streamScript, quit_mem_script]
    simp only [List.mem_map, exists_exists_and_eq_and]
  · exact (run_eq setup hbytes ht).1.trans houtput.symm

/-- A client that sends a line after the one that ends the session, with a cut within the end of a
line and writes of three bytes at most. -/
theorem run_of_delivers_cut_within_ending :
    let bytes := Utf8.encode "coord" ++ cr :: lf ::
      (Utf8.encode "quit" ++ cr :: lf :: Utf8.encode "render")
    let s : Stream :=
      ⟨[.bytes (Utf8.encode "coord\r"), .bytes (Utf8.encode "\nquit\r\nren"),
        .bytes (Utf8.encode "der")], [], some 3, none⟩
    Framed bytes ∧ s.Delivers bytes ∧
      (run .usual s).output = Utf8.encode "hello\r\n(15,15)\r\n" ∧ .closed ∈ (run .usual s).events ∧
      (run .usual s).status = .over := by
  intro bytes s
  have hbytes : Framed bytes := by
    refine ⟨Carried.ending (by decide) (Carried.ending (by decide) ?_), by decide⟩
    exact carried_of_not_mem (by decide)
  have hs : s.Delivers bytes := by
    refine ⟨⟨rfl, by decide, rfl⟩, [Utf8.encode "coord\r", Utf8.encode "\nquit\r\nren",
      Utf8.encode "der"], rfl, by decide, by decide⟩
  obtain ⟨houtput, -, -, hclosed, hover, -⟩ := run_of_delivers .usual hbytes hs
  refine ⟨hbytes, hs, houtput.trans (by decide +kernel), hclosed.2 ?_, hover⟩
  exact ⟨Utf8.encode "quit", by decide, by decide⟩

end Connection

end Plotter
