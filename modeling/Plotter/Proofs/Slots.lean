import Mathlib.Data.Set.Card
import Plotter.Proofs.Isolation

/-!
# Slots are conserved

No slot is lost and none is made, however clients come and go (`Floor.slots_conserved`). What the
service counts as sessions are indeed the clients that have one, so there are never more of them
than slots.

A session gives its slot back when it is over, and this says little as long as a session might
never be: so the ways in which a session ends are told by what was done to its stream. There are
final events (`Event.Final`), and a session is over as soon as one of them has happened and not
before (`Client.Reachable.telling`).
-/

namespace Plotter

open Text

/-- Events behind which nothing more is done to a stream: its end, a call that fails, a write that
takes nothing, and the attempt to close it. -/
inductive Event.Final : Event → Prop
  | readEnd : Final (.read 0)
  | readFailed (f : Fault) : Final (.readFailed f)
  | writeFailed (f : Fault) : Final (.writeFailed f)
  | nothingWritten : Final (.written [])
  | closed : Final .closed

namespace Connection

variable {x : Connection} {e : Event}

/-- The status tells whether a final event has happened. -/
def Telling (x : Connection) : Prop := x.status = .going ↔ ∀ e ∈ x.events, ¬ e.Final

theorem Telling.status_ne_going_iff (h : x.Telling) :
    x.status ≠ .going ↔ ∃ e ∈ x.events, e.Final := by
  rw [ne_eq, not_congr h]
  push Not
  rfl

/-- An event that is not final changes nothing. -/
theorem Telling.push {y : Connection} (h : x.Telling) (he : ¬ e.Final)
    (hevents : y.events = x.events.push e) (hstatus : y.status = x.status) : y.Telling := by
  rw [Telling, hstatus, hevents]
  refine Iff.trans h ?_
  simp only [Array.mem_push]
  constructor
  · rintro hnone d (hd | rfl)
    · exact hnone d hd
    · exact he
  · exact fun hnone d hd => hnone d (Or.inl hd)

/-- After a final event the status must be another. -/
theorem telling_of_final {y : Connection} (he : e.Final) (hevents : y.events = x.events.push e)
    (hy : y.status ≠ .going) : y.Telling := by
  refine ⟨fun hgoing => absurd hgoing hy, fun hnone => absurd he (hnone e ?_)⟩
  rw [hevents]
  exact Array.mem_push_self

theorem telling_fail (x : Connection) (he : e.Final) (f : Fault) : (x.fail e f).Telling :=
  telling_of_final he rfl (by simp [fail])

/-! ## One call after the other -/

theorem Telling.send (h : x.Telling) (s : Stream) (bytes : List UInt8) :
    (send s x bytes).Telling := by
  fun_induction Connection.send s x bytes with
  | case1 x => exact h
  | case2 x bytes hbytes f hf => exact telling_fail x (.writeFailed f) f
  | case3 x bytes hbytes hf n y hn =>
    have hnothing : bytes.take n = [] := by rw [hn, List.take_zero]
    refine telling_of_final (x := x) .nothingWritten ?_ (by simp)
    simp [y, wrote, record, hnothing]
  | case4 x bytes hbytes hf n y hn ih =>
    refine ih (h.push (e := .written (bytes.take n)) ?_ rfl rfl)
    intro hfinal
    generalize htake : bytes.take n = front at hfinal
    cases hfinal
    exact (List.take_eq_nil_iff.1 htake).elim hn hbytes

theorem telling_close (s : Stream) (x : Connection) : (close s x).Telling := by
  unfold close
  split
  · exact telling_of_final (x := x) .closed rfl (by simp)
  · next f _ => exact telling_fail x .closed f

theorem Telling.answer (h : x.Telling) (s : Stream) (o : Progress) : (answer s x o).Telling := by
  have hsend := Telling.send (x := { x with canvas := o.canvas, journal := x.journal ++ o.journal })
    h s (Utf8.encode o.output)
  unfold Connection.answer
  dsimp only
  split
  · exact telling_close s _
  · exact hsend

theorem Telling.receive (h : x.Telling) (s : Stream) (piece : List UInt8) :
    (receive s x piece).Telling := by
  unfold Connection.receive
  split
  · next payload rest _ => exact Telling.answer (x := { x with waiting := rest }) h s _
  · exact h
  · exact h

theorem Telling.next (h : x.Telling) (s : Stream) (d : Delivery) : (next s x d).Telling := by
  unfold Connection.next
  split
  · split
    · next f => exact telling_fail x (.readFailed f) f
    · exact telling_of_final (x := x) .readEnd rfl (by simp)
    · next b piece =>
      have hread : (x.record (.read (piece.length + 1))).Telling := by
        refine h.push (e := .read (piece.length + 1)) ?_ rfl rfl
        intro hfinal
        cases hfinal
      exact hread.receive s _
  · exact h

theorem telling_greet (setup : Setup) (s : Stream) : (greet setup s).Telling := by
  have hfresh : Telling ⟨Canvas.blank setup, [], 0, .going, #[], #[]⟩ := by simp [Telling]
  have hsend := hfresh.send s (Utf8.encode greeting)
  unfold greet
  dsimp only
  split
  · exact hsend
  · exact hsend

end Connection

namespace Service

/-- The session of a client is over as soon as a final event has happened and not before. -/
theorem Client.Reachable.telling {setup : Setup} {c : Client} (h : Client.Reachable setup c)
    {x : Connection} (hx : c.stage.session? = some x) : x.Telling := by
  induction h generalizing x with
  | stranger => cases hx
  | step _ hstep ih =>
    cases hstep with
    | connect hc => cases hx
    | send bytes hs => exact ih hx
    | hush => exact ih hx
    | accept stream hc =>
      cases hx
      exact Connection.telling_greet setup stream
    | read n y stream hy hg h₀ hn =>
      cases hx
      exact (ih (by rw [hy]; rfl)).next stream _
    | readEnd y stream hy hg hq hu =>
      cases hx
      exact (ih (by rw [hy]; rfl)).next stream _
    | readFault y stream fault hy hg =>
      cases hx
      exact (ih (by rw [hy]; rfl)).next stream _
    | finish y hy hg =>
      cases hx
      exact ih (by rw [hy]; rfl)

/-! ## Slots alone -/

/-- However slots change hands, there are as many as at first. -/
theorem Slots.Reachable.total_eq {n : Nat} {s : Slots} (h : Slots.Reachable n s) : s.total = n := by
  induction h with
  | start => simp [Slots.total, Slots.start]
  | step _ hstep ih => exact hstep.total_eq.trans ih

namespace Floor

variable {v : Service} {f g : Floor} {c : Client} {i : Nat}

/-! ## Who is served -/

/-- The clients that have a session. -/
def served (f : Floor) : Set Nat := {i | ∃ x, (f.clients i).stage = .served x}

theorem served_put_of_served (f : Floor) (i : Nat) {x : Connection} (h : c.stage = .served x) :
    (f.put i c).served = insert i f.served := by
  ext j
  by_cases hj : j = i
  · subst hj
    simp [served, clients_put_self, h]
  · simp [served, clients_put_of_ne f hj, hj]

theorem served_put_of_not_served (f : Floor) (i : Nat) (h : ∀ x, c.stage ≠ .served x) :
    (f.put i c).served = f.served \ {i} := by
  ext j
  by_cases hj : j = i
  · subst hj
    simp [served, clients_put_self, h]
  · simp [served, clients_put_of_ne f hj, hj]

/-- What a step does to the slots and to who is served: nothing, or one slot changes hands. -/
inductive Exchange (f g : Floor) : Prop
  /-- No slot changes hands. -/
  | none (hslots : g.slots = f.slots) (hserved : g.served = f.served)
  /-- A slot is taken for the next client. -/
  | take (n k : Nat) (hbefore : f.slots = ⟨n + 1, false, k⟩) (hafter : g.slots = ⟨n, true, k⟩)
      (hserved : g.served = f.served)
  /-- A client is accepted. -/
  | accept (n k i : Nat) (hi : i ∉ f.served) (hbefore : f.slots = ⟨n, true, k⟩)
      (hafter : g.slots = ⟨n, false, k + 1⟩) (hserved : g.served = insert i f.served)
  /-- No client could be accepted. -/
  | giveBack (n k : Nat) (hbefore : f.slots = ⟨n, true, k⟩)
      (hafter : g.slots = ⟨n + 1, false, k⟩) (hserved : g.served = f.served)
  /-- A session ends. -/
  | finish (i : Nat) (hi : i ∈ f.served)
      (hafter : g.slots = ⟨f.slots.free + 1, f.slots.held, f.slots.live - 1⟩)
      (hserved : g.served = f.served \ {i})

/-- Where a client is served before and after, none comes or goes. -/
theorem exchange_put_of_served {x y : Connection} (hx : (f.clients i).stage = .served x)
    (hy : c.stage = .served y) : Exchange f (f.put i c) := by
  refine .none rfl ?_
  rw [served_put_of_served f i hy]
  exact Set.insert_eq_of_mem ⟨x, hx⟩

/-- Where a client stands no elsewhere than before, none comes or goes. -/
theorem exchange_put_of_stage_eq (h : c.stage = (f.clients i).stage) : Exchange f (f.put i c) := by
  refine .none rfl ?_
  ext j
  by_cases hj : j = i
  · subst hj
    simp [served, clients_put_self, h]
  · simp [served, clients_put_of_ne f hj]

theorem Step.exchange (h : Step v f g) : Exchange f g := by
  cases h with
  | connect i h =>
    refine .none rfl ?_
    rw [served_put_of_not_served f i (by simp)]
    refine Set.sdiff_singleton_eq_self ?_
    rintro ⟨x, hx⟩
    rw [h] at hx
    cases hx
  | send i bytes h => exact exchange_put_of_stage_eq rfl
  | hush i => exact exchange_put_of_stage_eq rfl
  | take s h ht hf =>
    generalize hslots : f.slots = t at h hf
    cases h with
    | take n k => exact .take n k hslots rfl rfl
    | accept n k => cases hf
    | giveBack n k => cases hf
    | finish _ n k b =>
      rw [hf] at ht
      cases ht
  | accept i stream hi hs =>
    refine .accept _ _ i ?_ (by rw [← hs]) rfl (served_put_of_served f i rfl)
    rintro ⟨x, hx⟩
    rw [hi] at hx
    cases hx
  | acceptFault hs => exact .giveBack _ _ (by rw [← hs]) rfl rfl
  | read i n x stream hx hg h₀ hn => exact exchange_put_of_served hx rfl
  | readEnd i x stream hx hg hq hu => exact exchange_put_of_served hx rfl
  | readFault i x stream fault hx hg => exact exchange_put_of_served hx rfl
  | finish i x hx hg =>
    exact .finish i ⟨x, hx⟩ rfl (served_put_of_not_served f i (by simp))

/-! ## The slots of a floor -/

/-- The slots of a floor are where they can come by changing hands, and the sessions counted are the
clients that have one. -/
structure Counted (v : Service) (f : Floor) : Prop where
  slots : Slots.Reachable v.slots f.slots
  finite : f.served.Finite
  card : f.served.ncard = f.slots.live

theorem counted_start (v : Service) : Counted v (start v) := by
  have hnone : (start v).served = ∅ := by
    ext i
    simp [served, start, Client.stranger]
  refine ⟨.start, ?_, ?_⟩
  · rw [hnone]
    exact Set.finite_empty
  · rw [hnone, Set.ncard_empty]
    rfl

/-- Who is served is counted. -/
theorem Counted.live_pos (h : Counted v f) (hi : i ∈ f.served) : 0 < f.slots.live := by
  rw [← h.card]
  exact (Set.ncard_pos h.finite).2 ⟨i, hi⟩

/-- Slots stay where they are or change hands. -/
theorem Counted.slots_step (h : Counted v f) (hg : Exchange f g) :
    Slots.Reachable v.slots g.slots := by
  cases hg with
  | none hslots _ => exact hslots ▸ h.slots
  | take n k hbefore hafter _ => exact hafter ▸ (hbefore ▸ h.slots).step (.take n k)
  | accept n k i _ hbefore hafter _ => exact hafter ▸ (hbefore ▸ h.slots).step (.accept n k)
  | giveBack n k hbefore hafter _ => exact hafter ▸ (hbefore ▸ h.slots).step (.giveBack n k)
  | finish i hi hafter _ =>
    have hbefore : f.slots = ⟨f.slots.free, f.slots.held, f.slots.live - 1 + 1⟩ := by
      rw [Nat.sub_add_cancel (h.live_pos hi)]
    have hslots := h.slots
    rw [hbefore] at hslots
    exact hafter ▸ hslots.step (.finish .over _ _ _)

/-- Whoever comes or goes is counted. -/
theorem Counted.card_step (h : Counted v f) (hg : Exchange f g) :
    g.served.Finite ∧ g.served.ncard = g.slots.live := by
  cases hg with
  | none hslots hserved =>
    rw [hslots, hserved]
    exact ⟨h.finite, h.card⟩
  | take n k hbefore hafter hserved | giveBack n k hbefore hafter hserved =>
    rw [hafter, hserved]
    refine ⟨h.finite, h.card.trans ?_⟩
    rw [hbefore]
  | accept n k i hi hbefore hafter hserved =>
    have hcard := h.card
    rw [hbefore] at hcard
    rw [hafter, hserved, Set.ncard_insert_of_notMem hi h.finite, hcard]
    exact ⟨h.finite.insert i, rfl⟩
  | finish i hi hafter hserved =>
    have hone := Set.ncard_sdiff_singleton_add_one hi h.finite
    have hcard := h.card
    rw [hafter, hserved]
    refine ⟨h.finite.sdiff, ?_⟩
    dsimp only
    omega

/-- **One step.** Slots change hands, and sessions are counted. -/
theorem Counted.step (h : Counted v f) (hstep : Step v f g) : Counted v g where
  slots := h.slots_step hstep.exchange
  finite := (h.card_step hstep.exchange).1
  card := (h.card_step hstep.exchange).2

theorem Reachable.counted (h : Reachable v f) : Counted v f := by
  induction h with
  | start => exact counted_start v
  | step _ hstep ih => exact ih.step hstep

/-- There are as many slots as at first, wherever they are. -/
theorem Counted.total (h : Counted v f) :
    f.slots.free + f.slots.held.toNat + f.slots.live = v.slots := h.slots.total_eq

/-! ## What a step may do -/

/-- A client is accepted only with a slot in hand, so that fewer have a session than there are
slots. -/
theorem Counted.of_accepted (h : Counted v f) (hstep : Step v f g) (hg : i ∈ g.served)
    (hf : i ∉ f.served) :
    f.slots.held = true ∧ f.slots.live < v.slots ∧
      g.slots = ⟨f.slots.free, false, f.slots.live + 1⟩ := by
  cases hstep.exchange with
  | none _ hserved => exact absurd (hserved ▸ hg) hf
  | take _ _ _ _ hserved => exact absurd (hserved ▸ hg) hf
  | accept n k _ _ hbefore hafter _ =>
    have htotal := h.total
    rw [hbefore, Bool.toNat_true] at htotal
    rw [hbefore]
    refine ⟨rfl, ?_, hafter⟩
    dsimp only at htotal ⊢
    omega
  | giveBack _ _ _ _ hserved => exact absurd (hserved ▸ hg) hf
  | finish _ _ _ hserved =>
    rw [hserved] at hg
    exact absurd hg.1 hf

/-- The end of a session frees its slot. -/
theorem Counted.of_ended (h : Counted v f) (hstep : Step v f g) (hf : i ∈ f.served)
    (hg : i ∉ g.served) :
    0 < f.slots.live ∧ g.slots = ⟨f.slots.free + 1, f.slots.held, f.slots.live - 1⟩ := by
  cases hstep.exchange with
  | none _ hserved => exact absurd (hserved ▸ hf) hg
  | take _ _ _ _ hserved => exact absurd (hserved ▸ hf) hg
  | accept _ _ j _ _ _ hserved =>
    rw [hserved] at hg
    exact absurd (Set.mem_insert_of_mem j hf) hg
  | giveBack _ _ _ _ hserved => exact absurd (hserved ▸ hf) hg
  | finish _ _ hafter _ => exact ⟨h.live_pos hf, hafter⟩

/-- A session that has ended is not taken up again. -/
theorem Step.gone {x : Connection} (h : Step v f g) (hi : (f.clients i).stage = .gone x) :
    (g.clients i).stage = .gone x := by
  rcases h.client_eq_or_step i with heq | hclient
  · rw [heq, hi]
  · generalize f.clients i = c at hclient hi
    generalize g.clients i = d at hclient
    cases hclient with
    | connect h | accept _ h | read _ _ _ h | readEnd _ _ h | readFault _ _ _ h | finish _ h =>
      rw [hi] at h
      cases h
    | send bytes hs => exact hi
    | hush => exact hi

/-- **Slots are conserved.** On any floor that a service comes to:

* The slots that are free, the one held for the next client and those of sessions are all the slots
  of the service. The sessions counted are the clients that have one, and there are no more of them
  than slots.
* A session is over exactly if there was a final event, whichever it was, and then it may end.
* Whatever step comes next: a client is accepted only if fewer have a session than there are slots;
  the end of a session frees one slot; and a session that has ended does not end again. -/
theorem slots_conserved {v : Service} {f : Floor} (hf : Reachable v f) :
    (Slots.Reachable v.slots f.slots ∧
      f.slots.free + f.slots.held.toNat + f.slots.live = v.slots ∧
      f.served.Finite ∧ f.served.ncard = f.slots.live ∧ f.slots.live ≤ v.slots) ∧
    (∀ i x, (f.clients i).stage = .served x →
      (x.status ≠ .going ↔ ∃ e ∈ x.events, e.Final) ∧
      (x.status ≠ .going → ∃ g, Step v f g ∧ (g.clients i).stage = .gone x)) ∧
    ∀ g, Step v f g →
      (∀ i ∈ g.served, i ∉ f.served → f.slots.held = true ∧ f.slots.live < v.slots ∧
        g.slots = ⟨f.slots.free, false, f.slots.live + 1⟩) ∧
      (∀ i ∈ f.served, i ∉ g.served → 0 < f.slots.live ∧
        g.slots = ⟨f.slots.free + 1, f.slots.held, f.slots.live - 1⟩) ∧
      ∀ i x, (f.clients i).stage = .gone x → (g.clients i).stage = .gone x := by
  have h := hf.counted
  refine ⟨⟨h.slots, h.total, h.finite, h.card, ?_⟩, fun i x hx => ⟨?_, fun hover => ?_⟩,
    fun g hg => ⟨fun i => h.of_accepted hg, fun i => h.of_ended hg, fun i x => hg.gone⟩⟩
  · have htotal := h.total
    omega
  · have htelling := (hf.client i).telling (by rw [hx]; rfl : _ = some x)
    exact htelling.status_ne_going_iff
  · refine ⟨_, .finish f i x hx hover, ?_⟩
    exact congrArg Client.stage (clients_put_self f i _)

/-- Two clients and one slot, which is taken twice since the first attempt to accept a client fails.
The stream of the client that is accepted takes nothing, so that its session is over at once; the
other waits. -/
theorem slots_conserved_two_clients :
    let v : Service := ⟨.usual, 1⟩
    ∃ f x, Reachable v f ∧ f.slots = ⟨0, false, 1⟩ ∧ f.served.ncard = 1 ∧
      (f.clients 0).stage = .served x ∧ x.status = .failed .nothingWritten ∧
      (f.clients 1).stage = .queued ∧
      ∃ g, Step v f g ∧ (g.clients 0).stage = .gone x := by
  intro v
  let stream : Stream := ⟨[], [], some 0, none⟩
  have hqueued : Reachable v _ := .step (.step .start (.connect _ 0 rfl)) (.connect _ 1 rfl)
  have hfailed : Reachable v _ :=
    .step (.step hqueued (.take _ ⟨0, true, 0⟩ (.take 0 0) rfl rfl)) (.acceptFault _ rfl)
  have haccepted : Reachable v _ :=
    .step (.step hfailed (.take _ ⟨0, true, 0⟩ (.take 0 0) rfl rfl)) (.accept _ 0 stream rfl rfl)
  obtain ⟨⟨-, -, -, hcard, -⟩, hends, -⟩ := slots_conserved haccepted
  have hover : (Connection.greet v.setup stream).status = .failed .nothingWritten := by
    decide +kernel
  refine ⟨_, _, haccepted, rfl, hcard, rfl, hover, rfl, (hends 0 _ rfl).2 ?_⟩
  rw [hover]
  exact Status.noConfusion

end Floor

end Service

end Plotter
