import Plotter.Proofs.Delivery

/-!
# Shortfalls

What a connection makes of a stream whose calls may fail, measured by what it makes of one without
faults. It comes to the same, or it has failed, and then what it has written is the beginning of
what it would have written (`Connection.Attains`). Nothing is assumed of the stream: any of its
calls may fail, and a write may take any part of what it is given, or nothing.

So the account of one piece in `Plotter.Proofs.Delivery` holds for any stream, up to a shortfall
(`Connection.Awaits.advanced`). The whole text that a session writes over given lines is
`Connection.transcript`.
-/

namespace Plotter

open Text Framing

theorem Stream.faultless_ofPieces (pieces : List (List UInt8)) : (ofPieces pieces).Faultless where
  writeFaults := rfl
  writeLimit := by
    intro h
    cases h
  closingFault := rfl

namespace Connection

variable {s q : Stream} {x y z : Connection}

/-! ## Transcripts -/

/-- All that a session writes over lines: the greeting, and what comes of running the lines one
after the other. -/
def transcript (setup : Setup) (ls : List (List UInt8)) : List UInt8 :=
  Utf8.encode greeting ++ Utf8.encode
    ((ls.map Utf8.lenient).foldl Progress.next (.start (Canvas.blank setup))).output

/-- What is written over lines are the answers to their script. -/
theorem transcript_eq (setup : Setup) (ls : List (List UInt8)) :
    transcript setup ls = Utf8.encode greeting ++
      Utf8.encode ((Canvas.blank setup).answers (script (ls.map Utf8.lenient))) := by
  have hafter := Progress.after_foldl_next (p := .start (Canvas.blank setup)) rfl
    (ls.map Utf8.lenient)
  rw [transcript, hafter.output, Progress.start, String.empty_append]

/-- Lines that follow others add to what is written, if anything. -/
theorem transcript_prefix_append (setup : Setup) (ls ms : List (List UInt8)) :
    transcript setup ls <+: transcript setup (ls ++ ms) := by
  rw [transcript_eq, transcript_eq, List.map_append, script_append]
  split
  · exact List.prefix_rfl
  · rw [Canvas.answers_append, Utf8.encode_append, ← List.append_assoc]
    exact List.prefix_append ..

/-- Lines that follow the end of the session add nothing. -/
theorem transcript_of_quit (setup : Setup) {ls : List (List UInt8)}
    (h : .quit ∈ script (ls.map Utf8.lenient)) (ms : List (List UInt8)) :
    transcript setup (ls ++ ms) = transcript setup ls := by
  rw [transcript_eq, transcript_eq, List.map_append, script_append, if_pos h]

/-- A session that has been greeted and has served a script has written all that it writes. -/
theorem Served.output_eq_transcript {setup : Setup} (hq : q.Faultless) {ls : List (List UInt8)}
    (h : (greet setup q).Served (script (ls.map Utf8.lenient)) x) :
    x.output = transcript setup ls := by
  have hgreet := sent_greet hq setup
  rw [h.output, hgreet.output, hgreet.canvas, transcript_eq]
  rfl

/-! ## How far a connection gets -/

/-- How far `y` gets, measured by `x`. -/
inductive Attains (x y : Connection) : Prop
  /-- All is the same, but perhaps for the number of writes. -/
  | full (sent : x.Sent [] y)
  /-- A call has failed, and what has been written is the beginning. -/
  | part (f : Fault) (status : y.status = .failed f) (output : y.output <+: x.output)

/-- Those to which the same has been sent are the same. -/
theorem Sent.even {bytes : List UInt8} (h₁ : x.Sent bytes y) (h₂ : x.Sent bytes z) :
    y.Sent [] z where
  canvas := h₂.canvas.trans h₁.canvas.symm
  waiting := h₂.waiting.trans h₁.waiting.symm
  status := h₂.status.trans h₁.status.symm
  journal := h₂.journal.trans h₁.journal.symm
  output := by rw [h₂.output, h₁.output, List.append_nil]
  closed := h₂.closed.trans h₁.closed.symm

/-- All bytes are written, or a call fails and only the first of them are. -/
theorem sent_or_failed_send (s : Stream) (x : Connection) (bytes : List UInt8) :
    x.Sent bytes (send s x bytes) ∨
      ∃ f part, part <+: bytes ∧ (send s x bytes).status = .failed f ∧
        (send s x bytes).output = x.output ++ part := by
  fun_induction send s x bytes with
  | case1 x => exact Or.inl (Sent.refl x)
  | case2 x bytes _ f _ =>
    refine Or.inr ⟨f, [], List.nil_prefix, rfl, ?_⟩
    simp [fail, record, output]
  | case3 x bytes _ _ n y hn =>
    refine Or.inr ⟨.nothingWritten, bytes.take n, List.take_prefix n bytes, rfl, ?_⟩
    exact (sent_wrote x (bytes.take n)).output
  | case4 x bytes _ _ n y hn ih =>
    have hwrote := sent_wrote x (bytes.take n)
    rcases ih with hsent | ⟨f, part, hpart, hfailed, houtput⟩
    · have hall := hwrote.trans hsent
      rw [List.take_append_drop] at hall
      exact Or.inl hall
    · refine Or.inr ⟨f, bytes.take n ++ part, ?_, hfailed, ?_⟩
      · obtain ⟨rest, hrest⟩ := hpart
        refine ⟨rest, ?_⟩
        rw [List.append_assoc, hrest, List.take_append_drop]
      · rw [houtput, hwrote.output, List.append_assoc]

/-- If the answer cannot be written, nothing else happens. -/
theorem answer_of_failed {o : Progress} {f : Fault}
    (h : (send s (x.took o) (Utf8.encode o.output)).status = .failed f) :
    answer s x o = send s (x.took o) (Utf8.encode o.output) := by
  rw [took] at h ⊢
  simp only [answer, h]

/-- Closing writes nothing. -/
theorem output_answer (hq : q.Faultless) (hx : x.status = .going) (o : Progress) :
    (answer q x o).output = x.output ++ Utf8.encode o.output := by
  have hsent := sent_send hq (x.took o) (Utf8.encode o.output)
  cases ho : o.verdict with
  | goOn =>
    rw [answer_of_goOn ho, hsent.output]
    rfl
  | quit =>
    rw [answer_of_quit ho (hsent.status.trans hx), close, hq.closingFault]
    exact (output_record_closed _).trans hsent.output

theorem attains_answer (hq : q.Faultless) (s : Stream) (hx : x.status = .going) (o : Progress) :
    Attains (answer q x o) (answer s x o) := by
  have hfull := sent_send hq (x.took o) (Utf8.encode o.output)
  rcases sent_or_failed_send s (x.took o) (Utf8.encode o.output) with
    hsent | ⟨f, part, hpart, hfailed, houtput⟩
  · have heven := hfull.even hsent
    cases ho : o.verdict with
    | goOn =>
      rw [answer_of_goOn ho, answer_of_goOn ho]
      exact .full heven
    | quit =>
      rw [answer_of_quit ho (hfull.status.trans hx), answer_of_quit ho (hsent.status.trans hx)]
      unfold close
      rw [hq.closingFault]
      have hclosed := (output_record_closed (send s (x.took o) (Utf8.encode o.output))).trans
        ((heven.output.trans (List.append_nil _)).trans (output_record_closed _).symm)
      cases s.closingFault with
      | none =>
        refine .full ⟨heven.canvas, heven.waiting, rfl, heven.journal, ?_, ?_⟩
        · exact hclosed.trans (List.append_nil _).symm
        · simp [record]
      | some f =>
        refine .part f rfl ?_
        rw [show (fail _ _ f).output = _ from hclosed]
        exact List.prefix_rfl
  · rw [answer_of_failed hfailed]
    refine .part f hfailed ?_
    rw [houtput, output_answer hq hx]
    exact (List.prefix_append_right_inj _).2 hpart

theorem attains_receive (hq : q.Faultless) (s : Stream) (hx : x.status = .going)
    (piece : List UInt8) : Attains (receive q x piece) (receive s x piece) := by
  unfold receive
  split
  · refine attains_answer hq s ?_ _
    exact hx
  · exact .full (Sent.refl _)
  · exact .full (Sent.refl _)

theorem attains_greet (hq : q.Faultless) (s : Stream) (setup : Setup) :
    Attains (greet setup q) (greet setup s) := by
  have hfull := sent_greet hq setup
  rcases sent_or_failed_send s ⟨Canvas.blank setup, [], 0, .going, #[], #[]⟩ (Utf8.encode greeting)
    with hsent | ⟨f, part, hpart, hfailed, houtput⟩
  · refine .full (hfull.even ?_)
    simp only [greet, hsent.status]
    refine ⟨hsent.canvas, hsent.waiting, rfl, ?_, hsent.output, hsent.closed⟩
    rw [hsent.journal]
    rfl
  · have hshort : (greet setup s).output = (begun setup).output ++ part := by
      simp only [greet, hfailed]
      exact houtput
    refine .part f ?_ ?_
    · simp only [greet, hfailed]
    · rw [hshort, hfull.output]
      exact (List.prefix_append_right_inj _).2 hpart

/-! ## One piece -/

/-- What comes of `x` when a piece arrives over any stream and so many more bytes are to come. -/
inductive Advanced (x : Connection) (piece more : List UInt8) (y : Connection) : Prop
  /-- The lines that the piece terminates have been run and answered. -/
  | received (h : x.Received piece more y)
  /-- A call has failed, and what has been written is the beginning of the answers. -/
  | failed (f : Fault) (status : y.status = .failed f)
      (output : y.output <+:
        x.output ++ Utf8.encode (x.canvas.answers (streamScript (x.waiting ++ piece))))
      (rest : List (List UInt8))
      (lines : terminatedLines (x.waiting ++ (piece ++ more)) =
        terminatedLines (x.waiting ++ piece) ++ rest)

theorem Served.even {ks : List Command} (h : x.Served ks y) (hz : y.Sent [] z) :
    x.Served ks z := by
  have heven : y.Served [] z :=
    served_nil hz.canvas (hz.output.trans (List.append_nil _)) (by rw [hz.journal]) hz.status
      hz.closed
  have hall := h.trans heven
  rwa [List.append_nil] at hall

theorem Received.even {piece more : List UInt8} (h : x.Received piece more y) (hz : y.Sent [] z) :
    x.Received piece more z where
  served := h.served.even hz
  lines := by rw [hz.waiting, h.lines]
  waiting := by
    rw [hz.waiting]
    exact h.waiting
  framed := by
    rw [hz.waiting]
    exact h.framed

/-- **One piece, over any stream.** When a piece arrives, the lines that it terminates are run and
answered, unless a call fails; then what is written is the beginning of the answers. -/
theorem Awaits.advanced {piece more : List UInt8} (h : x.Awaits (piece ++ more))
    (hne : piece ≠ []) (s : Stream) : x.Advanced piece more (next s x (.bytes piece)) := by
  have hq := Stream.faultless_ofPieces []
  have hread := served_record_read x piece.length
  have hawaits : (x.record (.read piece.length)).Awaits (piece ++ more) :=
    ⟨h.going, h.waiting, h.framed⟩
  have hreceived := hawaits.received hq
  have hserved := hread.trans hreceived.served
  rw [List.nil_append] at hserved
  -- the account of the piece is that of a stream without faults
  rw [next_bytes_of_going s h.going hne]
  cases attains_receive hq s hawaits.going piece with
  | full hsent =>
    exact .received (Received.even ⟨hserved, hreceived.lines, hreceived.waiting, hreceived.framed⟩
      hsent)
  | part f hfailed houtput =>
    refine .failed f hfailed ?_ _ hreceived.lines
    rw [hserved.output] at houtput
    exact houtput

end Connection

end Plotter
