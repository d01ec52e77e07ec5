import Plotter.Connection
import Plotter.Proofs.Framing

/-!
# Rounds

A connection goes through a round whenever a read delivers bytes: the bytes join those that wait,
and what has arrived is run in part, waits or is dropped (`Round`). This file lists the rounds of a
connection (`Connection.rounds`) and says what becomes of the bytes in them.

The main statement is `Connection.rounds_conserve`: after any number of reads, whatever they
delivered, all bytes read have been run or dropped or still wait, each once and in order; and no
more than `maxWaiting` of them wait between two reads, so that no more than `maxWaiting` and the
size of one read ever lie there. The invariant is that what waits is incomplete (`Slight`). From it
follows that what is kept behind the end of a line was all delivered by the last read.

Nothing here depends on what the calls on the stream come to: the bytes of an answer that cannot be
written are accounted for like any others.
-/

namespace Plotter

open Text Framing

/-- What a connection has when a read delivers bytes. -/
structure Round where
  /-- The canvas before the read. -/
  canvas : Canvas
  /-- The bytes that waited before the read. -/
  waiting : List UInt8
  /-- The bytes that the read delivered. -/
  piece : List UInt8

namespace Round

/-- What is done with the bytes that waited and those that were delivered. -/
def share (r : Round) : Share := settle (r.waiting ++ r.piece)

/-- The payload that is run, if a line is complete. -/
def payload? (r : Round) : Option (List UInt8) := r.share.payload?

/-- How far the payload has been run, if there is one. -/
def progress (r : Round) : Progress :=
  match r.payload? with
  | some payload => r.canvas.process payload
  | none => .start r.canvas

end Round

namespace Connection

variable {s : Stream} {x : Connection} {d : Delivery} {r : Round}

/-- The round that begins with a delivery, if one does. -/
def round? (x : Connection) (d : Delivery) : Option Round :=
  match x.status, d with
  | .going, .bytes (b :: piece) => some ⟨x.canvas, x.waiting, b :: piece⟩
  | _, _ => none

/-- The rounds of a connection over a stream, in order, while reads deliver this. -/
def rounds (s : Stream) : Connection → List Delivery → List Round
  | _, [] => []
  | x, d :: ds => (x.round? d).toList ++ rounds s (next s x d) ds

/-! ## Which deliveries begin a round -/

theorem round?_eq_some_iff :
    x.round? d = some r ↔
      x.status = .going ∧ r.canvas = x.canvas ∧ r.waiting = x.waiting ∧ d = .bytes r.piece ∧
        r.piece ≠ [] := by
  unfold round?
  split
  · next b piece hgoing =>
    constructor
    · intro h
      rw [← Option.some.inj h]
      exact ⟨hgoing, rfl, rfl, rfl, List.cons_ne_nil b piece⟩
    · rintro ⟨-, hcanvas, hwaiting, hpiece, -⟩
      rw [← hcanvas, ← hwaiting, Delivery.bytes.inj hpiece]
  · next hnone =>
    constructor
    · intro h
      cases h
    · rintro ⟨hgoing, -, -, rfl, hne⟩
      obtain ⟨b, piece, hpiece⟩ := List.exists_cons_of_ne_nil hne
      exact absurd (by rw [hpiece]) (hnone b piece hgoing)

/-- A connection that begins no round is not open afterwards, and nothing is run. -/
theorem next_of_no_round (h : x.round? d = none) :
    (next s x d).status ≠ .going ∧ (next s x d).canvas = x.canvas ∧
      (next s x d).waiting = x.waiting := by
  unfold next
  split
  · next hgoing =>
    cases d with
    | fault f => exact ⟨Status.noConfusion, rfl, rfl⟩
    | bytes piece =>
      cases piece with
      | nil => exact ⟨Status.noConfusion, rfl, rfl⟩
      | cons b piece =>
        simp only [round?, hgoing] at h
        cases h
  · next hgoing => exact ⟨hgoing, rfl, rfl⟩

/-- There are no rounds when the connection is not open. -/
theorem rounds_of_not_going (h : x.status ≠ .going) (ds : List Delivery) : rounds s x ds = [] := by
  induction ds with
  | nil => rfl
  | cons d ds ih =>
    have hround : x.round? d = none := by
      rw [Option.eq_none_iff_forall_ne_some]
      intro r hr
      exact h (round?_eq_some_iff.1 hr).1
    rw [rounds, hround, next_of_not_going s h, ih]
    rfl

theorem rounds_cons_of_round (h : x.round? d = some r) (ds : List Delivery) :
    rounds s x (d :: ds) = r :: rounds s (next s x d) ds := by
  rw [rounds, h]
  rfl

theorem rounds_cons_of_no_round (h : x.round? d = none) (ds : List Delivery) :
    rounds s x (d :: ds) = [] := by
  rw [rounds, h, rounds_of_not_going (next_of_no_round h).1]
  rfl

/-! ## What a round does to the session -/

/-- Writing changes neither the canvas nor what waits. -/
theorem send_frame (s : Stream) (x : Connection) (bytes : List UInt8) :
    (send s x bytes).canvas = x.canvas ∧ (send s x bytes).waiting = x.waiting := by
  fun_induction send s x bytes with
  | case1 x => exact ⟨rfl, rfl⟩
  | case2 x bytes _ f _ => exact ⟨rfl, rfl⟩
  | case3 x bytes _ _ n y _ => exact ⟨rfl, rfl⟩
  | case4 x bytes _ _ n y _ ih => exact ih

/-- Closing changes neither the canvas nor what waits. -/
theorem close_frame (s : Stream) (x : Connection) :
    (close s x).canvas = x.canvas ∧ (close s x).waiting = x.waiting := by
  unfold close
  split <;> exact ⟨rfl, rfl⟩

/-- After an answer the canvas is the one that was run, whatever came of the writing. -/
theorem answer_frame (s : Stream) (x : Connection) (o : Progress) :
    (answer s x o).canvas = o.canvas ∧ (answer s x o).waiting = x.waiting := by
  have hsend := send_frame s { x with canvas := o.canvas, journal := x.journal ++ o.journal }
    (Utf8.encode o.output)
  unfold answer
  dsimp only
  split
  · have hclose := close_frame s (send s
      { x with canvas := o.canvas, journal := x.journal ++ o.journal } (Utf8.encode o.output))
    exact ⟨hclose.1.trans hsend.1, hclose.2.trans hsend.2⟩
  · exact hsend

theorem receive_frame (s : Stream) (x : Connection) (piece : List UInt8) :
    (receive s x piece).canvas = (Round.mk x.canvas x.waiting piece).progress.canvas ∧
      (receive s x piece).waiting = (settle (x.waiting ++ piece)).kept := by
  unfold receive Round.progress Round.payload? Round.share
  cases settle (x.waiting ++ piece) with
  | run payload rest => exact answer_frame s _ _
  | wait bytes => exact ⟨rfl, rfl⟩
  | drop bytes => exact ⟨rfl, rfl⟩

/-- After a round the canvas has run the payload, and what is to be kept waits. -/
theorem next_of_round (h : x.round? d = some r) :
    (next s x d).canvas = r.progress.canvas ∧ (next s x d).waiting = r.share.kept := by
  obtain ⟨hgoing, hcanvas, hwaiting, rfl, hne⟩ := round?_eq_some_iff.1 h
  have hr : r = ⟨x.canvas, x.waiting, r.piece⟩ := by
    rw [← hcanvas, ← hwaiting]
  rw [next_bytes_of_going s hgoing hne, hr]
  exact receive_frame s (x.record (.read r.piece.length)) r.piece

/-! ## What may wait -/

/-- Few enough bytes to wait, of which nothing can be run. -/
structure Slight (bytes : List UInt8) : Prop where
  /-- Nothing of them can be run. -/
  incomplete : Incomplete bytes
  /-- They are not too many. -/
  length_le : bytes.length ≤ maxWaiting

theorem slight_nil : Slight [] := ⟨incomplete_nil, Nat.zero_le _⟩

/-- What is kept of slight bytes and a piece is slight. -/
theorem Slight.kept {waiting piece : List UInt8} (h : Slight waiting)
    (hpiece : piece.length ≤ readSize) : Slight (settle (waiting ++ piece)).kept := by
  have hsettled := settled_settle (waiting ++ piece)
  have hread : readSize ≤ maxWaiting := by decide
  refine ⟨hsettled.incomplete_kept, ?_⟩
  rcases hsettled.length_kept_le h.incomplete with hle | hle
  · exact hle
  · exact Nat.le_trans hle (Nat.le_trans hpiece hread)

/-- A delivery is no larger than a read. -/
def Fits (d : Delivery) : Prop := ∀ piece, d = .bytes piece → piece.length ≤ readSize

/-- What waits stays slight. -/
theorem slight_next (h : Slight x.waiting) (hd : Fits d) : Slight (next s x d).waiting := by
  rcases hround : x.round? d with _ | r
  · rw [(next_of_no_round hround).2.2]
    exact h
  · obtain ⟨-, -, hwaiting, hpiece, -⟩ := round?_eq_some_iff.1 hround
    rw [(next_of_round hround).2, Round.share, hwaiting]
    exact h.kept (hd _ hpiece)

theorem slight_foldl_next {ds : List Delivery} (h : Slight x.waiting) (hds : ∀ d ∈ ds, Fits d) :
    Slight (ds.foldl (next s) x).waiting := by
  induction ds generalizing x with
  | nil => exact h
  | cons d ds ih =>
    have hnext : Slight (next s x d).waiting := slight_next h (hds d List.mem_cons_self)
    exact ih hnext fun e he => hds e (List.mem_cons_of_mem d he)

/-- In every round slight bytes waited, and no more than a read holds were delivered. -/
theorem slight_of_mem_rounds {ds : List Delivery} (h : Slight x.waiting) (hds : ∀ d ∈ ds, Fits d)
    (hr : r ∈ rounds s x ds) : Slight r.waiting ∧ r.piece.length ≤ readSize := by
  induction ds generalizing x with
  | nil => exact absurd hr List.not_mem_nil
  | cons d ds ih =>
    have hd : Fits d := hds d List.mem_cons_self
    rcases hround : x.round? d with _ | q
    · rw [rounds_cons_of_no_round hround] at hr
      exact absurd hr List.not_mem_nil
    · rw [rounds_cons_of_round hround] at hr
      rcases List.mem_cons.1 hr with rfl | hr
      · obtain ⟨-, -, hwaiting, hpiece, -⟩ := round?_eq_some_iff.1 hround
        rw [hwaiting]
        exact ⟨h, hd _ hpiece⟩
      · exact ih (slight_next h hd) (fun e he => hds e (List.mem_cons_of_mem d he)) hr

/-! ## What becomes of the bytes -/

/-- The bytes run and dropped in the rounds, and behind them those that wait at the end, are those
that waited at the beginning and behind them those that were read. -/
theorem flatMap_spent_append_waiting (s : Stream) (x : Connection) (ds : List Delivery) :
    (rounds s x ds).flatMap (·.share.spent) ++ (ds.foldl (next s) x).waiting =
      x.waiting ++ (rounds s x ds).flatMap (·.piece) := by
  induction ds generalizing x with
  | nil => simp [rounds]
  | cons d ds ih =>
    rw [List.foldl_cons]
    rcases hround : x.round? d with _ | r
    · have hwaiting := (next_of_no_round (s := s) hround).2.2
      have hrest := ih (next s x d)
      rw [rounds_of_not_going (next_of_no_round hround).1] at hrest
      rw [rounds_cons_of_no_round hround]
      exact hrest.trans (by rw [hwaiting])
    · obtain ⟨-, -, hwaiting, -, -⟩ := round?_eq_some_iff.1 hround
      have hspent := (settled_settle (r.waiting ++ r.piece)).spent_append_kept
      rw [rounds_cons_of_round hround, List.flatMap_cons, List.flatMap_cons, List.append_assoc,
        ih (next s x d), (next_of_round hround).2, ← List.append_assoc, ← List.append_assoc,
        ← hwaiting, ← hspent]
      rfl

/-- The rounds are those of the first deliveries, and of all of them while the connection is open.
-/
theorem map_piece_rounds (s : Stream) (x : Connection) (ds : List Delivery) :
    (rounds s x ds).map (Delivery.bytes ·.piece) <+: ds ∧
      ((ds.foldl (next s) x).status = .going →
        (rounds s x ds).map (Delivery.bytes ·.piece) = ds) := by
  induction ds generalizing x with
  | nil => exact ⟨List.nil_prefix, fun _ => rfl⟩
  | cons d ds ih =>
    rw [List.foldl_cons]
    rcases hround : x.round? d with _ | r
    · have hclosed := (next_of_no_round (s := s) hround).1
      rw [rounds_cons_of_no_round hround]
      refine ⟨List.nil_prefix, fun hgoing => absurd hgoing ?_⟩
      rw [foldl_next_of_not_going s hclosed]
      exact hclosed
    · obtain ⟨-, -, -, hpiece, -⟩ := round?_eq_some_iff.1 hround
      obtain ⟨hfirst, hall⟩ := ih (next s x d)
      rw [rounds_cons_of_round hround, List.map_cons, ← hpiece]
      refine ⟨(List.prefix_cons_inj d).2 hfirst, fun hgoing => ?_⟩
      rw [hall hgoing]

/-- The canvas has run the payloads of the rounds, one after the other, and nothing else. -/
theorem canvas_foldl_next (s : Stream) (x : Connection) (ds : List Delivery) :
    (ds.foldl (next s) x).canvas =
      ((rounds s x ds).filterMap Round.payload?).foldl (fun c p => (c.process p).canvas)
        x.canvas := by
  induction ds generalizing x with
  | nil => rfl
  | cons d ds ih =>
    rw [List.foldl_cons, ih (next s x d)]
    rcases hround : x.round? d with _ | r
    · have hnext := next_of_no_round (s := s) hround
      rw [rounds_cons_of_no_round hround, rounds_of_not_going hnext.1, hnext.2.1]
    · obtain ⟨-, hcanvas, -, -, -⟩ := round?_eq_some_iff.1 hround
      rw [rounds_cons_of_round hround, (next_of_round hround).1, Round.progress, hcanvas]
      cases hpayload : r.payload? with
      | none => rw [List.filterMap_cons_none hpayload]; rfl
      | some payload => rw [List.filterMap_cons_some hpayload]; rfl

/-! ## The main statement -/

/-- A session begins with nothing drawn and nothing waiting, whatever comes of the greeting. -/
theorem greet_frame (setup : Setup) (s : Stream) :
    (greet setup s).canvas = Canvas.blank setup ∧ (greet setup s).waiting = [] := by
  have hsend := send_frame s ⟨Canvas.blank setup, [], 0, .going, #[], #[]⟩ (Utf8.encode greeting)
  unfold greet
  dsimp only
  split <;> exact hsend

/-- **No byte is lost and few wait.** Take any stream whose reads deliver no more than a read holds,
and any number of its reads, the one that finds its end included. The payloads run and the bytes
dropped so far, in order and with what waits behind them, are the bytes read so far; the canvas has
run those payloads one after the other and nothing else; every payload is something and ends in a
line feed; bytes are dropped only if they are too many, no line ends in them and they do not end in
a line feed; in what waits no line ends, it does not end in a line feed and is not too much; and at
no moment has more arrived than may wait and one read holds. -/
theorem rounds_conserve (setup : Setup) {s : Stream} {ds : List Delivery}
    (hs : ∀ d ∈ s.reads, Fits d) (hds : ds <+: s.reads ++ [.bytes []]) :
    let x := ds.foldl (next s) (greet setup s)
    let rs := rounds s (greet setup s) ds
    (rs.flatMap (·.share.spent) ++ x.waiting = rs.flatMap (·.piece) ∧
        rs.map (Delivery.bytes ·.piece) <+: ds ∧
        (x.status = .going → rs.map (Delivery.bytes ·.piece) = ds)) ∧
      x.canvas = (rs.filterMap Round.payload?).foldl (fun c p => (c.process p).canvas)
        (Canvas.blank setup) ∧
      (∀ r ∈ rs, ∀ payload rest, r.share = .run payload rest →
        payload ≠ [] ∧ payload.getLast? = some lf) ∧
      (∀ r ∈ rs, ∀ bytes, r.share = .drop bytes →
        maxWaiting < bytes.length ∧ Unbroken cr lf bytes ∧ bytes.getLast? ≠ some lf) ∧
      (Unbroken cr lf x.waiting ∧ x.waiting.getLast? ≠ some lf ∧ x.waiting.length ≤ maxWaiting) ∧
      ∀ r ∈ rs, (r.waiting ++ r.piece).length ≤ maxWaiting + readSize := by
  intro x rs
  obtain ⟨hcanvas, hwaiting⟩ := greet_frame setup s
  have hslight : Slight (greet setup s).waiting := by
    rw [hwaiting]
    exact slight_nil
  have hfits : ∀ d ∈ ds, Fits d := by
    intro d hd
    rcases List.mem_append.1 (hds.subset hd) with hd | hd
    · exact hs d hd
    · intro piece hpiece
      rw [List.mem_singleton.1 hd] at hpiece
      rw [← Delivery.bytes.inj hpiece]
      exact Nat.zero_le _
  obtain ⟨hincomplete, hshort⟩ : Slight x.waiting := slight_foldl_next hslight hfits
  refine ⟨⟨?_, map_piece_rounds s (greet setup s) ds⟩, ?_, ?_, ?_,
    ⟨hincomplete.unbroken, hincomplete.last, hshort⟩, ?_⟩
  · have hspent := flatMap_spent_append_waiting s (greet setup s) ds
    rwa [hwaiting, List.nil_append] at hspent
  · rw [← hcanvas]
    exact canvas_foldl_next s (greet setup s) ds
  · intro r _ payload rest hrun
    have hsettled := settled_settle (r.waiting ++ r.piece)
    rw [show settle (r.waiting ++ r.piece) = .run payload rest from hrun] at hsettled
    cases hsettled with
    | run _ hlast _ _ =>
      refine ⟨?_, hlast⟩
      rintro rfl
      cases hlast
  · intro r _ bytes hdrop
    have hsettled := settled_settle (r.waiting ++ r.piece)
    rw [show settle (r.waiting ++ r.piece) = .drop bytes from hdrop] at hsettled
    cases hsettled with
    | drop hdropped hlong => exact ⟨hlong, hdropped.unbroken, hdropped.last⟩
  · intro r hr
    obtain ⟨hslight, hpiece⟩ := slight_of_mem_rounds hslight hfits hr
    rw [List.length_append]
    exact Nat.add_le_add hslight.length_le hpiece

/-- A client that ends one line with a cut within its end and the next with a line feed alone, and
then begins a third: two payloads are run, and what was begun waits. -/
theorem rounds_conserve_cut_within_ending :
    let s : Stream :=
      ⟨[.bytes (Utf8.encode "draw\r"), .bytes (Utf8.encode "\ncoo"), .bytes (Utf8.encode "rd\n"),
        .bytes (Utf8.encode "quit\r")], [], none, none⟩
    let x := s.reads.foldl (next s) (greet .usual s)
    let rs := rounds s (greet .usual s) s.reads
    (∀ d ∈ s.reads, Fits d) ∧ s.reads <+: s.reads ++ [.bytes []] ∧
      rs.flatMap (·.share.spent) ++ x.waiting = Utf8.encode "draw\r\ncoord\nquit\r" ∧
      rs.filterMap Round.payload? = [Utf8.encode "draw\r\n", Utf8.encode "coord\n"] ∧
      x.waiting = Utf8.encode "quit\r" ∧ Unbroken cr lf x.waiting ∧
      x.waiting.length ≤ maxWaiting := by
  intro s x rs
  have hs : ∀ d ∈ s.reads, Fits d := by
    intro d hd piece hpiece
    subst hpiece
    simp only [s, List.mem_cons, Delivery.bytes.injEq, List.not_mem_nil, or_false] at hd
    rcases hd with rfl | rfl | rfl | rfl <;> decide
  have hds : s.reads <+: s.reads ++ [.bytes []] := List.prefix_append ..
  obtain ⟨⟨hspent, -, -⟩, -, -, -, ⟨hunbroken, -, hshort⟩, -⟩ := rounds_conserve .usual hs hds
  refine ⟨hs, hds, hspent.trans ?_, ?_, ?_, hunbroken, hshort⟩ <;> decide +kernel

end Connection

end Plotter
