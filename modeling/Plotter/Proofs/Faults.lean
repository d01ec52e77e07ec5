import Plotter.Proofs.Rounds

/-!
# Faults

What a connection does when a call on its stream fails. There are two statements, put together in
`Connection.run_failing`.

* *A fault only cuts a run off.* If one call fails, all happens as it would without the fault up to
  that call, which fails, and nothing happens after it (`Follows`). If the call is not made, the
  fault is never seen.
* *Every run is orderly*, whatever fails in it (`Orderly`): the greeting comes first; a payload is
  answered whole, by one write if there is an answer and by none if there is not, before anything
  else is read; and the stream is closed at most once, at the very end, behind the answer to the
  payload that held the quitting line.

Here a write takes all that it is given, so that there is one write for each answer.
-/

namespace Plotter

open Text Framing

/-! ## Calls -/

/-- What is called upon a stream to be done. -/
inductive CallKind
  | write
  | read
  | closing
deriving DecidableEq, Repr

/-- The kind of the call that an event comes from. -/
def Event.kind : Event → CallKind
  | .written _ => .write
  | .writeFailed _ => .write
  | .read _ => .read
  | .readFailed _ => .read
  | .closed => .closing

/-- The number of calls of a kind that events come from. -/
def callCount (k : CallKind) (es : List Event) : Nat := es.countP (·.kind = k)

@[simp] theorem callCount_nil (k : CallKind) : callCount k [] = 0 := rfl

@[simp] theorem callCount_append (k : CallKind) (es fs : List Event) :
    callCount k (es ++ fs) = callCount k es + callCount k fs :=
  List.countP_append

@[simp] theorem callCount_cons (k : CallKind) (e : Event) (es : List Event) :
    callCount k (e :: es) = callCount k es + if e.kind = k then 1 else 0 := by
  simp [callCount, List.countP_cons]

/-- A single call on a stream. -/
inductive Call
  /-- A write, counted from nought. -/
  | write (index : Nat)
  /-- A read, counted from nought. -/
  | read (index : Nat)
  /-- The closing. -/
  | closing
deriving DecidableEq, Repr

namespace Call

/-- The kind of a call. -/
def kind : Call → CallKind
  | write _ => .write
  | read _ => .read
  | closing => .closing

/-- The number of calls of the same kind before a call. A stream is closed once at most. -/
def index : Call → Nat
  | write i => i
  | read j => j
  | closing => 0

/-- What is recorded when a call fails. The closing is recorded whether it fails or not. -/
def failure (f : Fault) : Call → Event
  | write _ => .writeFailed f
  | read _ => .readFailed f
  | closing => .closed

/-- An event comes from this call, if those before it are all that came before. -/
def Yields (c : Call) (before : List Event) (e : Event) : Prop :=
  e.kind = c.kind ∧ callCount c.kind before = c.index

instance (c : Call) (before : List Event) (e : Event) : Decidable (c.Yields before e) :=
  inferInstanceAs (Decidable (_ ∧ _))

/-- A call is made once at most. If it were made twice, the later time more calls of its kind would
have come before. -/
theorem Yields.before_eq {c : Call} {before before' after after' : List Event} {e e' : Event}
    (h : c.Yields before e) (h' : c.Yields before' e')
    (heq : before ++ e :: after = before' ++ e' :: after') : before = before' := by
  rcases List.append_eq_append_iff.1 heq with ⟨w, hw, hrest⟩ | ⟨w, hw, hrest⟩
  · cases w with
    | nil => rw [hw, List.append_nil]
    | cons x w =>
      obtain ⟨rfl, -⟩ := List.cons.inj hrest
      have hcount := h'.2
      rw [hw, callCount_append, callCount_cons, if_pos h.1, h.2] at hcount
      omega
  · cases w with
    | nil => rw [hw, List.append_nil]
    | cons x w =>
      obtain ⟨rfl, -⟩ := List.cons.inj hrest
      have hcount := h.2
      rw [hw, callCount_append, callCount_cons, if_pos h'.1, h'.2] at hcount
      omega

/-- Of events among which there are no more of its kind than its index, none comes from a call. -/
theorem not_yields {c : Call} {es : List Event} (h : callCount c.kind es ≤ c.index)
    {before after : List Event} {e : Event} (heq : es = before ++ e :: after) :
    ¬ c.Yields before e := by
  rintro ⟨hkind, hcount⟩
  rw [heq, callCount_append, callCount_cons, if_pos hkind, hcount] at h
  omega

end Call

/-! ## Streams on which one call fails -/

/-- What reads deliver if one of them, counted from nought, fails. Those behind the last delivery
find the end of the stream. -/
def faultAt (f : Fault) : Nat → List Delivery → List Delivery
  | 0, ds => .fault f :: ds.tail
  | n + 1, [] => .bytes [] :: faultAt f n []
  | n + 1, d :: ds => d :: faultAt f n ds

/-- What is left for reads to deliver after so many of them, if a call that was not among them
fails.
-/
def Call.disturb (f : Fault) (made : Nat) (ds : List Delivery) : Call → List Delivery
  | read j => faultAt f (j - made) ds
  | _ => ds

/-- The stream with one call that fails. -/
def Stream.failing (s : Stream) (f : Fault) : Call → Stream
  | .write i => { s with writeFaults := [(i, f)] }
  | .read j => { s with reads := faultAt f j s.reads }
  | .closing => { s with closingFault := some f }

/-! ### Their calls -/

section Failing

variable {call : Call} {f : Fault}

theorem reads_failing (s : Stream) : (s.failing f call).reads = call.disturb f 0 s.reads := by
  cases call <;> rfl

theorem writeLimit_failing (s : Stream) : (s.failing f call).writeLimit = s.writeLimit := by
  cases call <;> rfl

theorem writeFault?_failing (pieces : List (List UInt8)) (n : Nat) :
    ((Stream.ofPieces pieces).failing f call).writeFault? n =
      if call = .write n then some f else none := by
  cases call with
  | write i =>
    show List.lookup n [(i, f)] = _
    rw [List.lookup_cons]
    by_cases hi : n = i
    · simp [hi]
    · have hne : (n == i) = false := beq_false_of_ne hi
      simp [hne, Ne.symm hi]
  | read j => rfl
  | closing => rfl

theorem closingFault_failing (pieces : List (List UInt8)) :
    ((Stream.ofPieces pieces).failing f call).closingFault =
      if call = .closing then some f else none := by
  cases call <;> rfl

namespace Call

variable {before : List Event} {n : Nat}

/-- The read that fails is the next one. -/
theorem disturb_of_yields (h : call.Yields before (.read n)) (ds : List Delivery) :
    call.disturb f (callCount .read before) ds = .fault f :: ds.tail := by
  obtain ⟨hkind, hcount⟩ := h
  cases call with
  | write i => cases hkind
  | closing => cases hkind
  | read j =>
    have hj : callCount .read before = j := hcount
    rw [disturb, hj, Nat.sub_self, faultAt]

/-- Another read is the next one. -/
theorem disturb_of_not_yields (hle : callCount call.kind before ≤ call.index)
    (h : ¬ call.Yields before (.read n)) (d : Delivery) (ds : List Delivery) :
    call.disturb f (callCount .read before) (d :: ds) =
      d :: call.disturb f (callCount .read before + 1) ds := by
  cases call with
  | write i => rfl
  | closing => rfl
  | read j =>
    have hlt : callCount .read before < j := Nat.lt_of_le_of_ne hle fun heq => h ⟨rfl, heq⟩
    have hj : j - callCount .read before = j - (callCount .read before + 1) + 1 := by omega
    rw [disturb, hj, faultAt]
    rfl

/-- Another read is the next one, and finds the end of the stream. -/
theorem disturb_nil_of_not_yields (hle : callCount call.kind before ≤ call.index)
    (h : ¬ call.Yields before (.read n)) :
    call.disturb f (callCount .read before) [] = [] ∨
      ∃ ds, call.disturb f (callCount .read before) [] = .bytes [] :: ds := by
  cases call with
  | write i => exact Or.inl rfl
  | closing => exact Or.inl rfl
  | read j =>
    have hlt : callCount .read before < j := Nat.lt_of_le_of_ne hle fun heq => h ⟨rfl, heq⟩
    have hj : j - callCount .read before = j - (callCount .read before + 1) + 1 := by omega
    right
    rw [disturb, hj, faultAt]
    exact ⟨_, rfl⟩

end Call

end Failing

/-! ## What a round comes to -/

namespace Round

/-- The answer to the payload of a round. -/
def reply (r : Round) : List UInt8 := Utf8.encode r.progress.output

/-- What is recorded of an answer that is written: one write, if there is anything to write. -/
def answer (r : Round) : List Event := if r.reply = [] then [] else [.written r.reply]

theorem progress_of_run {r : Round} {payload rest : List UInt8} (h : r.share = .run payload rest) :
    r.progress = r.canvas.process payload := by
  unfold progress payload?
  rw [h]
  rfl

theorem progress_of_no_payload {r : Round} (h : r.payload? = none) :
    r.progress = .start r.canvas := by
  unfold progress
  rw [h]

/-- Where nothing is run there is no answer. -/
theorem answer_of_no_payload {r : Round} (h : r.payload? = none) : r.answer = [] := by
  have hreply : r.reply = [] := by
    rw [reply, progress_of_no_payload h]
    rfl
  rw [answer, if_pos hreply]

/-- All that is recorded of an answer is writes. -/
theorem kind_of_mem_answer {r : Round} {e : Event} (h : e ∈ r.answer) : e.kind = .write := by
  unfold answer at h
  split at h
  · cases h
  · rw [List.mem_singleton.1 h]
    rfl

theorem closed_not_mem_answer (r : Round) : .closed ∉ r.answer := by
  intro h
  cases kind_of_mem_answer h

theorem callCount_read_answer (r : Round) : callCount .read r.answer = 0 := by
  refine List.countP_eq_zero.2 fun e he => ?_
  rw [kind_of_mem_answer he]
  decide

end Round

namespace Connection

variable {s : Stream} {x y z : Connection} {d : Delivery} {r : Round}

/-- Where a write takes all, bytes are written by one call. -/
theorem send_of_unlimited (hl : s.writeLimit = none) (x : Connection) {bytes : List UInt8}
    (hne : bytes ≠ []) :
    send s x bytes =
      match s.writeFault? x.writes with
      | some f => x.fail (.writeFailed f) f
      | none => x.wrote bytes := by
  have hlength : bytes.length ≠ 0 := mt List.length_eq_zero_iff.1 hne
  have htaken : s.taken bytes = bytes.length := by
    unfold Stream.taken
    rw [hl]
  unfold send
  rw [if_neg hne]
  cases s.writeFault? x.writes with
  | some f => rfl
  | none =>
    simp only [htaken, if_neg hlength, List.take_length, List.drop_length]
    unfold send
    rw [if_pos rfl]

theorem send_nil (s : Stream) (x : Connection) : send s x [] = x := by
  unfold send
  rw [if_pos rfl]

/-- What comes of a payload that is answered over a stream on which a write takes all. -/
inductive Answered (s : Stream) (x : Connection) (r : Round) (y : Connection) : Prop
  /-- The answer is written, and the session goes on. -/
  | goOn (verdict : r.progress.verdict = .goOn) (status : y.status = .going)
      (events : y.events.toList = x.events.toList ++ r.answer)
  /-- There is an answer, and the write of it fails. -/
  | unanswered (reply : r.reply ≠ []) (f : Fault) (fault : s.writeFault? x.writes = some f)
      (status : y.status = .failed f)
      (events : y.events.toList = x.events.toList ++ [.writeFailed f])
  /-- The answer is written, the session has ended, and the stream is closed. -/
  | quit (verdict : r.progress.verdict = .quit)
      (status : y.status = s.closingFault.elim .over .failed)
      (events : y.events.toList = x.events.toList ++ (r.answer ++ [.closed]))

/-- Bytes are written by one call, if there are any, or that call fails. -/
theorem send_cases (hl : s.writeLimit = none) (hx : x.status = .going) (bytes : List UInt8) :
    ((send s x bytes).status = .going ∧ (send s x bytes).events.toList =
        x.events.toList ++ if bytes = [] then [] else [.written bytes]) ∨
      bytes ≠ [] ∧ ∃ f, s.writeFault? x.writes = some f ∧ (send s x bytes).status = .failed f ∧
        (send s x bytes).events.toList = x.events.toList ++ [.writeFailed f] := by
  by_cases hne : bytes = []
  · subst hne
    rw [send_nil]
    exact Or.inl ⟨hx, (List.append_nil _).symm⟩
  · rw [send_of_unlimited hl x hne, if_neg hne]
    rcases hfault : s.writeFault? x.writes with _ | f
    · exact Or.inl ⟨hx, Array.toList_push⟩
    · exact Or.inr ⟨hne, f, rfl, rfl, Array.toList_push⟩

theorem close_eq (s : Stream) (x : Connection) :
    (close s x).status = s.closingFault.elim .over .failed ∧
      (close s x).events.toList = x.events.toList ++ [.closed] := by
  unfold close
  cases s.closingFault with
  | none => exact ⟨rfl, Array.toList_push⟩
  | some f => exact ⟨rfl, Array.toList_push⟩

/-- Whatever is left to wait, a payload is answered. -/
theorem answered_answer (hl : s.writeLimit = none) (hx : x.status = .going) (r : Round)
    (waiting : List UInt8) :
    Answered s x r (answer s { x with waiting := waiting } r.progress) := by
  unfold answer
  dsimp only
  have hsend := send_cases (x := { x with
    waiting := waiting
    canvas := r.progress.canvas
    journal := x.journal ++ r.progress.journal }) hl hx r.reply
  generalize hy : send s _ r.reply = y at hsend
  rw [show Utf8.encode r.progress.output = r.reply from rfl, hy]
  rcases hsend with ⟨hstatus, hevents⟩ | ⟨hne, f, hfault, hstatus, hevents⟩
  · rw [hstatus]
    cases hverdict : r.progress.verdict with
    | goOn => exact .goOn hverdict hstatus hevents
    | quit =>
      obtain ⟨hclosed, hclose⟩ := close_eq s y
      refine .quit hverdict hclosed ?_
      rw [hclose, hevents, List.append_assoc]
      rfl
  · rw [hstatus]
    exact .unanswered hne f hfault hstatus hevents

/-- After its read a round is answered. -/
theorem answered_next (hl : s.writeLimit = none) (h : x.round? d = some r) :
    Answered s (x.record (.read r.piece.length)) r (next s x d) := by
  obtain ⟨hgoing, hcanvas, hwaiting, rfl, hne⟩ := round?_eq_some_iff.1 h
  have hshare : settle ((x.record (.read r.piece.length)).waiting ++ r.piece) = r.share := by
    rw [Round.share, hwaiting]
    rfl
  rw [next_bytes_of_going s hgoing hne, receive, hshare]
  cases hcase : r.share with
  | run payload rest =>
    have hprogress : r.progress = (x.record (.read r.piece.length)).canvas.process payload := by
      rw [Round.progress_of_run hcase, hcanvas]
      rfl
    dsimp only
    rw [← hprogress]
    exact answered_answer (x := x.record (.read r.piece.length)) hl hgoing r rest
  | wait bytes =>
    have hnone : r.payload? = none := by rw [Round.payload?, hcase]; rfl
    refine .goOn ?_ hgoing ?_
    · rw [Round.progress_of_no_payload hnone]
      rfl
    · rw [Round.answer_of_no_payload hnone, List.append_nil]
  | drop bytes =>
    have hnone : r.payload? = none := by rw [Round.payload?, hcase]; rfl
    refine .goOn ?_ hgoing ?_
    · rw [Round.progress_of_no_payload hnone]
      rfl
    · rw [Round.answer_of_no_payload hnone, List.append_nil]

/-- To a connection that is not open nothing more happens up to the end. -/
theorem end_of_not_going (s : Stream) (h : x.status ≠ .going) (ds : List Delivery) :
    next s (ds.foldl (next s) x) (.bytes []) = x := by
  rw [foldl_next_of_not_going s h, next_of_not_going s h]

/-! ## Orderly runs -/

/-- What an open connection that goes through these rounds may do to its stream until it is over. -/
inductive Orderly : List Round → List Event → Prop
  /-- A read finds the end of the stream. -/
  | ended : Orderly [] [.read 0]
  /-- A read fails. -/
  | unread (f : Fault) : Orderly [] [.readFailed f]
  /-- A round is answered before anything else is read. -/
  | goOn {r : Round} {rs : List Round} {es : List Event} (verdict : r.progress.verdict = .goOn)
      (rest : Orderly rs es) : Orderly (r :: rs) (.read r.piece.length :: (r.answer ++ es))
  /-- A round has an answer, and the write of it fails. -/
  | unanswered {r : Round} (reply : r.reply ≠ []) (f : Fault) :
      Orderly [r] [.read r.piece.length, .writeFailed f]
  /-- A round in which the session ends is answered, and the stream is closed. -/
  | quit {r : Round} (verdict : r.progress.verdict = .quit) :
      Orderly [r] (.read r.piece.length :: (r.answer ++ [.closed]))

/-- The stream is closed at most once, at the very end, behind the answer to the round in which the
session ends. -/
theorem Orderly.closed {rs : List Round} {es : List Event} (h : Orderly rs es) :
    .closed ∉ es ∨ ∃ before done r, es = before ++ [.closed] ∧ .closed ∉ before ∧
      rs = done ++ [r] ∧ r.progress.verdict = .quit ∧
        .read r.piece.length :: r.answer <:+ before := by
  induction h with
  | ended => simp
  | unread f => simp
  | @goOn r rs es verdict rest ih =>
    have hread : .closed ∉ (.read r.piece.length :: r.answer : List Event) := by
      simp [Round.closed_not_mem_answer]
    rcases ih with hopen | ⟨before, done, q, rfl, hbefore, rfl, hquit, hanswer⟩
    · left
      simp [Round.closed_not_mem_answer, hopen]
    · right
      refine ⟨.read r.piece.length :: r.answer ++ before, r :: done, q, by simp, ?_, rfl, hquit, ?_⟩
      · rw [List.mem_append, not_or]
        exact ⟨hread, hbefore⟩
      · exact hanswer.trans (List.suffix_append ..)
  | unanswered reply f => simp
  | @quit r verdict =>
    right
    refine ⟨.read r.piece.length :: r.answer, [], r, rfl, ?_, rfl, verdict, List.suffix_rfl⟩
    simp [Round.closed_not_mem_answer]

/-- **Every run is orderly.** -/
theorem orderly_next_foldl_next (hl : s.writeLimit = none) (hx : x.status = .going)
    (ds : List Delivery) :
    ∃ es, (next s (ds.foldl (next s) x) (.bytes [])).events.toList = x.events.toList ++ es ∧
      Orderly (rounds s x ds) es := by
  induction ds generalizing x with
  | nil =>
    refine ⟨[.read 0], ?_, .ended⟩
    rw [List.foldl_nil, next_end_of_going s hx]
    exact Array.toList_push
  | cons d ds ih =>
    rw [List.foldl_cons]
    rcases hround : x.round? d with _ | r
    · -- no bytes are delivered, so this is the end of the stream or a fault
      have hclosed := (next_of_no_round (s := s) hround).1
      rw [rounds_cons_of_no_round hround, end_of_not_going s hclosed]
      rcases d with ⟨_ | ⟨b, piece⟩⟩ | f
      · rw [next_end_of_going s hx]
        exact ⟨[.read 0], Array.toList_push, .ended⟩
      · simp only [round?, hx] at hround
        cases hround
      · rw [next_fault_of_going s hx]
        exact ⟨[.readFailed f], Array.toList_push, .unread f⟩
    · have hevents : (x.record (.read r.piece.length)).events.toList =
          x.events.toList ++ [.read r.piece.length] := Array.toList_push
      rw [rounds_cons_of_round hround]
      cases answered_next hl hround with
      | goOn hverdict hstatus hanswer =>
        obtain ⟨es, hes, horderly⟩ := ih hstatus
        refine ⟨.read r.piece.length :: (r.answer ++ es), ?_, .goOn hverdict horderly⟩
        rw [hes, hanswer, hevents]
        simp
      | unanswered hreply f _ hstatus hfailed =>
        have hover : (next s x d).status ≠ .going := by simp [hstatus]
        rw [rounds_of_not_going hover, end_of_not_going s hover]
        refine ⟨[.read r.piece.length, .writeFailed f], ?_, .unanswered hreply f⟩
        rw [hfailed, hevents, List.append_assoc]
        rfl
      | quit hverdict hstatus hanswer =>
        have hover : (next s x d).status ≠ .going := by
          rw [hstatus]
          cases s.closingFault <;> simp
        rw [rounds_of_not_going hover, end_of_not_going s hover]
        refine ⟨.read r.piece.length :: (r.answer ++ [.closed]), ?_, .quit hverdict⟩
        rw [hanswer, hevents, List.append_assoc]
        rfl

/-- The greeting is written by one call, or that call fails. -/
theorem greet_cases (setup : Setup) (hl : s.writeLimit = none) :
    ((greet setup s).status = .going ∧
        (greet setup s).events.toList = [.written (Utf8.encode greeting)]) ∨
      ∃ f, s.writeFault? 0 = some f ∧ (greet setup s).status = .failed f ∧
        (greet setup s).events.toList = [.writeFailed f] := by
  have hsend := send_cases (x := ⟨Canvas.blank setup, [], 0, .going, #[], #[]⟩) hl rfl
    (Utf8.encode greeting)
  have hne : Utf8.encode greeting ≠ [] := by decide
  unfold greet
  dsimp only
  generalize send s _ (Utf8.encode greeting) = y at hsend
  rcases hsend with ⟨hgoing, hevents⟩ | ⟨-, f, hfault, hfailed, hevents⟩
  · rw [if_neg hne] at hevents
    rw [hgoing]
    exact Or.inl ⟨rfl, hevents⟩
  · rw [hfailed]
    exact Or.inr ⟨f, hfault, hfailed, hevents⟩

/-- The greeting comes first, and what is done behind it is orderly. -/
theorem orderly_run (setup : Setup) (hl : s.writeLimit = none) :
    (∃ f, (run setup s).events.toList = [.writeFailed f]) ∨
      ∃ es, (run setup s).events.toList = .written (Utf8.encode greeting) :: es ∧
        Orderly (rounds s (greet setup s) s.reads) es := by
  unfold run
  rcases greet_cases setup hl with ⟨hgoing, hevents⟩ | ⟨f, -, hfailed, hevents⟩
  · obtain ⟨es, hes, horderly⟩ := orderly_next_foldl_next hl hgoing s.reads
    refine Or.inr ⟨es, ?_, horderly⟩
    rw [hes, hevents]
    rfl
  · have hover : (greet setup s).status ≠ .going := by simp [hfailed]
    rw [end_of_not_going s hover]
    exact Or.inl ⟨f, hevents⟩

/-! ## A fault only cuts a run off -/

/-- The call is still to be made, and the writes have been counted. -/
structure Ahead (call : Call) (x : Connection) : Prop where
  /-- All writes have been counted. -/
  writes : x.writes = callCount .write x.events.toList
  /-- No more calls of its kind have been made than come before it. -/
  count_le : callCount call.kind x.events.toList ≤ call.index

/-- After `x` made the call, all was the same in `y` up to it; there it failed. -/
def CutOff (call : Call) (f : Fault) (x y : Connection) : Prop :=
  ∃ before e after, x.events.toList = before ++ e :: after ∧ call.Yields before e ∧
    y.events.toList = before ++ [call.failure f] ∧ y.status = .failed f

/-- How `y`, in which the call fails, follows `x`, in which it does not. -/
inductive Follows (call : Call) (f : Fault) (x y : Connection) : Prop
  /-- The call is still to be made, and all is the same. -/
  | alike (eq : y = x) (ahead : Ahead call x)
  /-- The call has been made. -/
  | cutOff (cut : CutOff call f x y)

section Follows

variable {call : Call} {f : Fault} {pieces : List (List UInt8)} {piece : List UInt8}

/-- The call is still to be made after another. -/
theorem Ahead.push (h : Ahead call x) {e : Event} (hne : ¬ call.Yields x.events.toList e)
    (hevents : y.events.toList = x.events.toList ++ [e])
    (hwrites : y.writes = x.writes + if e.kind = .write then 1 else 0) : Ahead call y := by
  have hle := h.count_le
  refine ⟨?_, ?_⟩
  · rw [hwrites, hevents, h.writes, callCount_append, callCount_cons, callCount_nil, Nat.zero_add]
  · rw [hevents, callCount_append, callCount_cons, callCount_nil, Nat.zero_add]
    by_cases hkind : e.kind = call.kind
    · have hlt := Nat.lt_of_le_of_ne hle fun heq => hne ⟨hkind, heq⟩
      rw [if_pos hkind]
      exact hlt
    · rw [if_neg hkind]
      exact hle

/-- What happens after the call makes no difference. -/
theorem CutOff.extend (h : CutOff call f x y) (hz : x.events.toList <+: z.events.toList) :
    CutOff call f z y := by
  obtain ⟨before, e, after, hevents, hyields, hcut⟩ := h
  obtain ⟨more, hmore⟩ := hz
  refine ⟨before, e, after ++ more, ?_, hyields, hcut⟩
  rw [← hmore, hevents, List.append_assoc, List.cons_append]

theorem CutOff.status (h : CutOff call f x y) : y.status = .failed f := by
  obtain ⟨_, _, _, _, _, _, hstatus⟩ := h
  exact hstatus

theorem CutOff.not_going (h : CutOff call f x y) : y.status ≠ .going := by
  rw [h.status]
  exact Status.noConfusion

variable (f pieces)

/-- A write fails, if it is the call that does. -/
theorem follows_send (h : Ahead call x) (bytes : List UInt8) :
    Follows call f (send (.ofPieces pieces) x bytes)
      (send ((Stream.ofPieces pieces).failing f call) x bytes) := by
  by_cases hne : bytes = []
  · subst hne
    rw [send_nil, send_nil]
    exact .alike rfl h
  · rw [send_of_unlimited rfl x hne, send_of_unlimited (writeLimit_failing _) x hne,
      writeFault?_failing]
    by_cases hcall : call = .write x.writes
    · rw [if_pos hcall]
      subst hcall
      exact .cutOff ⟨x.events.toList, .written bytes, [], Array.toList_push, ⟨rfl, h.writes.symm⟩,
        Array.toList_push, rfl⟩
    · rw [if_neg hcall]
      have hother : ¬ call.Yields x.events.toList (.written bytes) := by
        rintro ⟨hkind, hcount⟩
        cases call with
        | write i =>
          have hi : callCount .write x.events.toList = i := hcount
          rw [h.writes, hi] at hcall
          exact hcall rfl
        | read j => cases hkind
        | closing => cases hkind
      exact .alike rfl (h.push hother Array.toList_push rfl)

/-- The closing fails, if it is the call that does. -/
theorem follows_close (h : Ahead call x) :
    Follows call f (close (.ofPieces pieces) x)
      (close ((Stream.ofPieces pieces).failing f call) x) := by
  unfold close
  rw [closingFault_failing]
  by_cases hcall : call = .closing
  · rw [if_pos hcall]
    subst hcall
    have hfirst : callCount .closing x.events.toList = 0 := Nat.le_zero.1 h.count_le
    exact .cutOff ⟨x.events.toList, .closed, [], Array.toList_push, ⟨rfl, hfirst⟩,
      Array.toList_push, rfl⟩
  · rw [if_neg hcall]
    have hother : ¬ call.Yields x.events.toList .closed := by
      rintro ⟨hkind, -⟩
      cases call with
      | write i => cases hkind
      | read j => cases hkind
      | closing => exact hcall rfl
    exact .alike rfl (h.push hother Array.toList_push rfl)

theorem follows_answer (h : Ahead call x) (o : Progress) :
    Follows call f (answer (.ofPieces pieces) x o)
      (answer ((Stream.ofPieces pieces).failing f call) x o) := by
  have hsend := follows_send f pieces
    (x := { x with canvas := o.canvas, journal := x.journal ++ o.journal })
    ⟨h.writes, h.count_le⟩ (Utf8.encode o.output)
  unfold answer
  dsimp only
  generalize send (.ofPieces pieces) _ (Utf8.encode o.output) = y at hsend
  generalize send _ _ (Utf8.encode o.output) = z at hsend
  cases hsend with
  | alike heq hahead =>
    rw [heq]
    split
    · exact follows_close f pieces hahead
    · exact .alike rfl hahead
  | cutOff hcut =>
    rw [hcut.status]
    dsimp only
    split
    · refine .cutOff (hcut.extend ?_)
      rw [(close_eq _ y).2]
      exact List.prefix_append ..
    · exact .cutOff hcut

/-- A round goes on alike if its read is not the call that fails. -/
theorem follows_next (h : Ahead call x) (hne : ¬ call.Yields x.events.toList (.read piece.length)) :
    Follows call f (next (.ofPieces pieces) x (.bytes piece))
      (next ((Stream.ofPieces pieces).failing f call) x (.bytes piece)) := by
  by_cases hx : x.status = .going
  · cases piece with
    | nil =>
      rw [next_end_of_going _ hx, next_end_of_going _ hx]
      exact .alike rfl (h.push hne Array.toList_push rfl)
    | cons b piece =>
      have hread : Ahead call (x.record (.read (piece.length + 1))) :=
        h.push hne Array.toList_push rfl
      rw [next_bytes_of_going _ hx (List.cons_ne_nil b piece),
        next_bytes_of_going _ hx (List.cons_ne_nil b piece)]
      unfold receive
      split
      · refine follows_answer f pieces ?_ _
        exact ⟨hread.writes, hread.count_le⟩
      · exact .alike rfl ⟨hread.writes, hread.count_le⟩
      · exact .alike rfl ⟨hread.writes, hread.count_le⟩
  · rw [next_of_not_going _ hx, next_of_not_going _ hx]
    exact .alike rfl h

/-- A read comes first in what is done next, and no other is among it. -/
theorem exists_events_next (hl : s.writeLimit = none) (hx : x.status = .going)
    (piece : List UInt8) :
    ∃ es, (next s x (.bytes piece)).events.toList = x.events.toList ++ .read piece.length :: es ∧
      callCount .read es = 0 := by
  cases piece with
  | nil =>
    refine ⟨[], ?_, rfl⟩
    rw [next_end_of_going s hx]
    exact Array.toList_push
  | cons b piece =>
    let r : Round := ⟨x.canvas, x.waiting, b :: piece⟩
    have hround : x.round? (.bytes (b :: piece)) = some r :=
      round?_eq_some_iff.2 ⟨hx, rfl, rfl, rfl, List.cons_ne_nil b piece⟩
    have hread : (x.record (.read r.piece.length)).events.toList =
        x.events.toList ++ [.read r.piece.length] := Array.toList_push
    have hanswer : callCount .read r.answer = 0 := r.callCount_read_answer
    cases answered_next hl hround with
    | goOn _ _ hevents =>
      refine ⟨r.answer, ?_, hanswer⟩
      rw [hevents, hread, List.append_assoc]
      rfl
    | unanswered _ f _ _ hevents =>
      refine ⟨[.writeFailed f], ?_, rfl⟩
      rw [hevents, hread, List.append_assoc]
      rfl
    | quit _ _ hevents =>
      refine ⟨r.answer ++ [.closed], ?_, ?_⟩
      · rw [hevents, hread, List.append_assoc]
        rfl
      · rw [callCount_append, hanswer]
        rfl

theorem prefix_next (hl : s.writeLimit = none) (x : Connection) (piece : List UInt8) :
    x.events.toList <+: (next s x (.bytes piece)).events.toList := by
  by_cases hx : x.status = .going
  · obtain ⟨es, hes, -⟩ := exists_events_next hl hx piece
    rw [hes]
    exact List.prefix_append ..
  · refine ⟨[], ?_⟩
    rw [next_of_not_going s hx, List.append_nil]

theorem prefix_foldl_next (hl : s.writeLimit = none) (x : Connection)
    (ps : List (List UInt8)) :
    x.events.toList <+: ((ps.map .bytes).foldl (next s) x).events.toList := by
  induction ps generalizing x with
  | nil => exact List.prefix_rfl
  | cons p ps ih => exact (prefix_next hl x p).trans (ih _)

theorem prefix_end (hl : s.writeLimit = none) (x : Connection) (ps : List (List UInt8)) :
    x.events.toList <+:
      (next s ((ps.map .bytes).foldl (next s) x) (.bytes [])).events.toList :=
  (prefix_foldl_next hl x ps).trans (prefix_next hl _ [])

/-- If the next read fails, all is cut off there, whatever would have come after it. -/
theorem cutOff_fault (hx : x.status = .going)
    (hy : call.Yields x.events.toList (.read piece.length))
    (hz : (next (.ofPieces pieces) x (.bytes piece)).events.toList <+: z.events.toList) :
    CutOff call f z (next s x (.fault f)) := by
  obtain ⟨es, hes, -⟩ := exists_events_next (s := .ofPieces pieces) rfl hx piece
  have hfailure : call.failure f = .readFailed f := by
    cases call with
    | write i => cases hy.1
    | read j => rfl
    | closing => cases hy.1
  refine CutOff.extend ⟨x.events.toList, .read piece.length, es, hes, hy, ?_⟩ hz
  rw [next_fault_of_going s hx, hfailure]
  exact ⟨Array.toList_push, rfl⟩

/-- After a read that is not the call that fails, the next one is counted. -/
theorem callCount_read_next (hx : x.status = .going) (piece : List UInt8) :
    callCount .read (next (.ofPieces pieces) x (.bytes piece)).events.toList =
      callCount .read x.events.toList + 1 := by
  obtain ⟨es, hes, hreads⟩ := exists_events_next (s := .ofPieces pieces) rfl hx piece
  rw [hes, callCount_append, callCount_cons, hreads]
  rfl

/-- If a read finds the end of the stream, the run with the fault follows the run without it. -/
theorem follows_end (h : Ahead call x) (hx : x.status = .going)
    (hy : ¬ call.Yields x.events.toList (.read ([] : List UInt8).length)) :
    Follows call f (next (.ofPieces pieces) x (.bytes []))
      (next ((Stream.ofPieces pieces).failing f call)
        ((call.disturb f (callCount .read x.events.toList) []).foldl
          (next ((Stream.ofPieces pieces).failing f call)) x) (.bytes [])) := by
  have hend := follows_next f pieces h hy
  rcases Call.disturb_nil_of_not_yields (f := f) h.count_le hy with hds | ⟨ds, hds⟩
  · rw [hds]
    exact hend
  · have hover :
        (next ((Stream.ofPieces pieces).failing f call) x (.bytes [])).status ≠ .going := by
      rw [next_end_of_going _ hx]
      exact Status.noConfusion
    rw [hds, List.foldl_cons, end_of_not_going _ hover]
    exact hend

/-- The rest of a run with the fault follows the rest of the run without it. -/
theorem follows_next_foldl_next (h : Ahead call x) (ps : List (List UInt8)) :
    Follows call f
      (next (.ofPieces pieces) ((ps.map .bytes).foldl (next (.ofPieces pieces)) x) (.bytes []))
      (next ((Stream.ofPieces pieces).failing f call)
        ((call.disturb f (callCount .read x.events.toList) (ps.map .bytes)).foldl
          (next ((Stream.ofPieces pieces).failing f call)) x) (.bytes [])) := by
  -- along the reads; a read fails, or both runs go on alike, or they have parted before
  induction ps generalizing x with
  | nil =>
    by_cases hx : x.status = .going
    · by_cases hy : call.Yields x.events.toList (.read ([] : List UInt8).length)
      · have hcut := cutOff_fault (s := (Stream.ofPieces pieces).failing f call) f pieces hx hy
          List.prefix_rfl
        rw [List.map_nil, Call.disturb_of_yields hy, List.foldl_cons,
          end_of_not_going _ hcut.not_going]
        exact .cutOff hcut
      · exact follows_end f pieces h hx hy
    · rw [end_of_not_going _ hx, end_of_not_going _ hx]
      exact .alike rfl h
  | cons p ps ih =>
    by_cases hx : x.status = .going
    · have hextend := prefix_end (s := .ofPieces pieces) rfl
        (next (.ofPieces pieces) x (.bytes p)) ps
      rw [List.map_cons, List.foldl_cons]
      by_cases hy : call.Yields x.events.toList (.read p.length)
      · have hcut := cutOff_fault (s := (Stream.ofPieces pieces).failing f call) f pieces hx hy
          hextend
        rw [Call.disturb_of_yields hy, List.foldl_cons, end_of_not_going _ hcut.not_going]
        exact .cutOff hcut
      · rw [Call.disturb_of_not_yields h.count_le hy, List.foldl_cons]
        cases follows_next f pieces h hy with
        | alike heq hahead =>
          rw [heq, ← callCount_read_next pieces hx p]
          exact ih hahead
        | cutOff hcut =>
          rw [end_of_not_going _ hcut.not_going]
          exact .cutOff (hcut.extend hextend)
    · rw [end_of_not_going _ hx, end_of_not_going _ hx]
      exact .alike rfl h

/-- A run with the fault begins as the run without it. -/
theorem follows_greet (setup : Setup) (pieces : List (List UInt8)) (call : Call) (f : Fault) :
    Follows call f (greet setup (.ofPieces pieces))
      (greet setup ((Stream.ofPieces pieces).failing f call)) := by
  have hnew : Ahead call ⟨Canvas.blank setup, [], 0, .going, #[], #[]⟩ := ⟨rfl, Nat.zero_le _⟩
  have hsend := follows_send f pieces hnew (Utf8.encode greeting)
  unfold greet
  dsimp only
  generalize send (.ofPieces pieces) _ (Utf8.encode greeting) = x at hsend
  generalize send _ _ (Utf8.encode greeting) = y at hsend
  cases hsend with
  | alike heq hahead =>
    rw [heq]
    split
    · exact .alike rfl ⟨hahead.writes, hahead.count_le⟩
    · exact .alike rfl hahead
  | cutOff hcut =>
    rw [hcut.status]
    dsimp only
    split
    · exact .cutOff hcut
    · exact .cutOff hcut

/-- The run with the fault follows the run without it. -/
theorem follows_run (setup : Setup) (pieces : List (List UInt8)) (call : Call) (f : Fault) :
    Follows call f (run setup (.ofPieces pieces))
      (run setup ((Stream.ofPieces pieces).failing f call)) := by
  unfold run
  rw [reads_failing]
  cases follows_greet setup pieces call f with
  | alike heq hahead =>
    have hfirst : callCount .read (greet setup (.ofPieces pieces)).events.toList = 0 := by
      rcases greet_cases (s := .ofPieces pieces) setup rfl with ⟨-, hevents⟩ | ⟨f, -, -, hevents⟩
      · rw [hevents]
        rfl
      · rw [hevents]
        rfl
    have hrest := follows_next_foldl_next f pieces hahead pieces
    rw [hfirst] at hrest
    rw [heq]
    exact hrest
  | cutOff hcut =>
    rw [end_of_not_going _ hcut.not_going]
    exact .cutOff (hcut.extend (prefix_end rfl _ pieces))

/-- Where no call fails the connection does not fail. -/
theorem status_ne_failed_next (h : ∀ f, x.status ≠ .failed f) (piece : List UInt8) :
    ∀ f, (next (.ofPieces pieces) x (.bytes piece)).status ≠ .failed f := by
  intro f
  rcases hround : x.round? (.bytes piece) with _ | r
  · by_cases hx : x.status = .going
    · cases piece with
      | nil =>
        rw [next_end_of_going _ hx]
        exact Status.noConfusion
      | cons b piece =>
        simp only [round?, hx] at hround
        cases hround
    · rw [next_of_not_going _ hx]
      exact h f
  · cases answered_next (s := .ofPieces pieces) rfl hround with
    | goOn _ hstatus _ =>
      rw [hstatus]
      exact Status.noConfusion
    | unanswered _ g hfault _ _ => cases hfault
    | quit _ hstatus _ =>
      rw [hstatus]
      exact Status.noConfusion

theorem status_ne_failed_foldl_next (h : ∀ f, x.status ≠ .failed f) (ps : List (List UInt8)) :
    ∀ f, ((ps.map .bytes).foldl (next (.ofPieces pieces)) x).status ≠ .failed f := by
  induction ps generalizing x with
  | nil => exact h
  | cons p ps ih => exact ih (status_ne_failed_next pieces h p)

/-- Where no call fails the run ends well. -/
theorem over_run (setup : Setup) (pieces : List (List UInt8)) :
    (run setup (.ofPieces pieces)).status = .over := by
  have hgreet : ∀ f, (greet setup (.ofPieces pieces)).status ≠ .failed f := by
    rcases greet_cases (s := .ofPieces pieces) setup rfl with ⟨hgoing, -⟩ | ⟨g, hfault, -⟩
    · intro f
      rw [hgoing]
      exact Status.noConfusion
    · cases hfault
  have hread : ∀ f, ((Stream.ofPieces pieces).reads.foldl (next (.ofPieces pieces))
      (greet setup (.ofPieces pieces))).status ≠ .failed f :=
    status_ne_failed_foldl_next pieces hgreet pieces
  unfold run
  generalize (Stream.ofPieces pieces).reads.foldl _ _ = x at hread
  rcases hstatus : x.status with _ | _ | f
  · rw [next_end_of_going _ hstatus]
  · rw [next_of_not_going _ (by simp [hstatus])]
    exact hstatus
  · exact absurd hstatus (hread f)

end Follows

/-! ## The main statement -/

/-- **Faults only cut a run off, and every run is orderly.** Take any pieces that a client sends,
and the run over them in which no call fails; it ends well. Let one call fail, a write, a read or
the closing. If the run made that call, the run with the fault is the same up to the call, fails
there and does nothing more; if not, it is the same altogether. And whatever fails in a run: if the
greeting fails nothing else is done; otherwise it comes first and what is behind it is orderly, so
that each payload is answered whole before anything else is read, and the stream is closed at most
once, at the end, behind the answer to the round in which the session ended. -/
theorem run_failing (setup : Setup) (pieces : List (List UInt8)) (call : Call) (f : Fault) :
    let x := run setup (.ofPieces pieces)
    let y := run setup ((Stream.ofPieces pieces).failing f call)
    x.status = .over ∧
      (∀ before e after, x.events.toList = before ++ e :: after → call.Yields before e →
        y.events.toList = before ++ [call.failure f] ∧ y.status = .failed f) ∧
      ((∀ before e after, x.events.toList = before ++ e :: after → ¬ call.Yields before e) →
        y = x) ∧
      ∀ s : Stream, s.writeLimit = none →
        (∃ g, (run setup s).events.toList = [.writeFailed g]) ∨
          ∃ es, (run setup s).events.toList = .written (Utf8.encode greeting) :: es ∧
            Orderly (rounds s (greet setup s) s.reads) es ∧
            (.closed ∉ es ∨ ∃ before done r, es = before ++ [.closed] ∧ .closed ∉ before ∧
              rounds s (greet setup s) s.reads = done ++ [r] ∧ r.progress.verdict = .quit ∧
                .read r.piece.length :: r.answer <:+ before) := by
  intro x y
  have hfollows : Follows call f x y := follows_run setup pieces call f
  refine ⟨over_run setup pieces, ?_, ?_, ?_⟩
  · intro before e after hevents hyields
    cases hfollows with
    | alike _ hahead => exact absurd hyields (Call.not_yields hahead.count_le hevents)
    | cutOff hcut =>
      obtain ⟨before', e', after', hevents', hyields', hcut, hstatus⟩ := hcut
      have hbefore := hyields'.before_eq hyields (hevents'.symm.trans hevents)
      rw [hcut, hbefore]
      exact ⟨rfl, hstatus⟩
  · intro hnever
    cases hfollows with
    | alike heq _ => exact heq
    | cutOff hcut =>
      obtain ⟨before, e, after, hevents, hyields, -⟩ := hcut
      exact absurd hyields (hnever before e after hevents)
  · intro s hl
    rcases orderly_run setup hl with hfailed | ⟨es, hes, horderly⟩
    · exact Or.inl hfailed
    · exact Or.inr ⟨es, hes, horderly, horderly.closed⟩

/-- A client that sends two lines at once and quits by the second. There are two writes, one read
and the closing: a fault of the closing or of the second write is seen, one of a second read is not.
-/
theorem run_failing_two_lines :
    let pieces := [Utf8.encode "coord\r\nquit\r\n"]
    let s := Stream.ofPieces pieces
    let before : List Event := [.written (Utf8.encode "hello\r\n"), .read 13]
    let answered : Event := .written (Utf8.encode "(15,15)\r\n")
    let f : Fault := ⟨"broken pipe"⟩
    (run .usual s).events.toList = before ++ [answered, .closed] ∧
      (run .usual (s.failing f .closing)).events.toList = before ++ [answered, .closed] ∧
      (run .usual (s.failing f .closing)).status = .failed f ∧
      (run .usual (s.failing f (.write 1))).events.toList = before ++ [.writeFailed f] ∧
      run .usual (s.failing f (.read 1)) = run .usual s := by
  intro pieces s before answered f
  have hevents : (run .usual s).events.toList = before ++ answered :: [.closed] := by decide +kernel
  obtain ⟨-, hclosing, -, -⟩ := run_failing .usual pieces .closing f
  obtain ⟨-, hwrite, -, -⟩ := run_failing .usual pieces (.write 1) f
  obtain ⟨-, -, hread, -⟩ := run_failing .usual pieces (.read 1) f
  obtain ⟨hclosed, hfailed⟩ := hclosing (before ++ [answered]) .closed [] hevents (by decide)
  refine ⟨hevents, hclosed, hfailed, (hwrite before answered [.closed] hevents (by decide)).1, ?_⟩
  refine hread fun before' e after heq => Call.not_yields ?_ heq
  rw [hevents]
  decide

end Connection

end Plotter
