import Plotter.Proofs.Curtailment
import Plotter.Proofs.LineFeed
import Plotter.Proofs.Reading
import Plotter.Proofs.Rounds

/-!
# Oversized lines

What becomes of lines that are too long to wait for their end. A connection drops what waits once it
is longer than any command could be, and does not remember that the line has not ended: what is
still to come of the line is run as a line of its own.

The lines that are run are a curtailment of those that arrive (`Connection.run_of_carried`),
whatever these are and however they are cut. The invariant is `Connection.Continues`: what waits and
what is to come are the rest of a stream, perhaps with a line feed left over before it. A piece that
arrives is kept, run or dropped, and each keeps the invariant (`Connection.Continues.passed`).

From it follows what becomes of one line that must be too long (`Connection.run_of_oversized`).
Which part of it is dropped depends on the cut, and the rest can be any command at all
(`Connection.run_of_flood`), even one that ends the session (`Connection.run_of_oversized_quit`).
-/

namespace Plotter

open Text Framing

namespace Connection

variable {s : Stream} {x : Connection} {left : Bool} {bytes piece more : List UInt8}

/-! ## One piece -/

/-- An open connection that will receive so many more bytes: what waits and what is to come are what
is still to come of a stream, perhaps with a line feed left over before it. -/
structure Continues (x : Connection) (left : Bool) (bytes more : List UInt8) : Prop where
  going : x.status = .going
  slight : Slight x.waiting
  carried : Carried bytes
  eq : x.waiting ++ more = leftover left ++ bytes

/-- The connection `y` is what comes of `x` when a piece has arrived and so many more bytes are to
come: some lines have been run, and with those that may be run of the stream behind them they may be
run of the whole. -/
def Passed (x : Connection) (left : Bool) (bytes more : List UInt8) (y : Connection) : Prop :=
  ∃ left' bytes' ls, x.Served (script (ls.map Utf8.lenient)) y ∧
    (y.status = .going → y.Continues left' bytes' more) ∧
    ∀ ms, Curtailed left' (terminatedLines bytes') ms →
      Curtailed left (terminatedLines bytes) (ls ++ ms)

namespace Continues

/-- What waits is part of what is still to be run. -/
theorem passed_of_wait (h : x.Continues left bytes (piece ++ more))
    (hwait : settle (x.waiting ++ piece) = .wait (x.waiting ++ piece))
    (hslight : Slight (x.waiting ++ piece)) : Passed x left bytes more (x.receive s piece) := by
  have heq := h.eq
  rw [← List.append_assoc] at heq
  rw [receive_of_wait hwait]
  refine ⟨left, bytes, [], served_nil rfl rfl rfl rfl Iff.rfl, fun _ => ?_, fun ms hms => hms⟩
  exact ⟨h.going, hslight, h.carried, heq⟩

/-- What is dropped is part of one line, and may have its carriage return at the end. -/
theorem passed_of_drop (h : x.Continues left bytes (piece ++ more))
    (hdrop : settle (x.waiting ++ piece) = .drop (x.waiting ++ piece))
    (hincomplete : Incomplete (x.waiting ++ piece))
    (hlong : maxWaiting < (x.waiting ++ piece).length) :
    Passed x left bytes more (x.receive s piece) := by
  have heq := h.eq
  rw [← List.append_assoc] at heq
  have hfirst : leftover left <+: x.waiting ++ piece := by
    refine List.prefix_of_prefix_length_le ⟨bytes, heq.symm⟩ (List.prefix_append _ more) ?_
    rw [length_leftover]
    exact Nat.le_trans (Bool.toNat_le left) (Nat.zero_lt_of_lt hlong)
  obtain ⟨d, hd⟩ := hfirst
  rw [← hd, List.append_assoc, List.append_cancel_left_eq] at heq
  subst heq
  have hunbroken := hincomplete.unbroken
  rw [← hd] at hunbroken hlong
  rw [List.length_append, length_leftover] at hlong
  have hcarried := h.carried
  have hlf : lf ∉ d := hcarried.left.not_mem hunbroken.right
  rw [receive_of_drop hdrop]
  have hserved : x.Served (script (([] : List (List UInt8)).map Utf8.lenient))
      { x with
        waiting := [], journal := x.journal.push (.discarding (x.waiting ++ piece).length) } :=
    served_nil rfl rfl (obeyed_push rfl x.journal) rfl Iff.rfl
  rcases hcarried.right with hmore | ⟨a, b, rfl, rfl⟩
  · refine ⟨false, more, [], hserved, fun _ => ⟨h.going, slight_nil, hmore, rfl⟩, fun ms hms => ?_⟩
    exact hms.dropped hlf hmore hlong
  · rw [List.append_assoc, List.singleton_append] at hcarried ⊢
    refine ⟨true, b, [], hserved, fun _ => ⟨h.going, slight_nil, hcarried.rest, rfl⟩,
      fun ms hms => ?_⟩
    rw [terminatedLines_append_ending, breakAt_of_unbroken hunbroken.right.left]
    rw [List.length_append, List.length_singleton, ← Nat.add_assoc] at hlong
    exact .swallowed hlong hms

/-- What is run is made of whole lines, perhaps with a line feed before them that was left over. -/
theorem passed_of_run (hs : s.Faultless) (h : x.Continues left bytes (piece ++ more))
    {payload rest : List UInt8} (hrun : settle (x.waiting ++ piece) = .run payload rest)
    (hsplit : x.waiting ++ piece = payload ++ rest) (hlast : payload.getLast? = some lf)
    (hrest : Slight rest) (hfits : (x.waiting ++ piece).length ≤ maxWaiting + readSize) :
    Passed x left bytes more (x.receive s piece) := by
  obtain ⟨hserved, hwaiting⟩ := served_receive_of_run hs h.going hrun
  have hslight : Slight (x.receive s piece).waiting := by
    rw [hwaiting]
    exact hrest
  have hkept : (x.receive s piece).waiting ++ more = leftover false ++ (rest ++ more) := by
    rw [hwaiting]
    rfl
  obtain ⟨before, rfl⟩ := List.getLast?_eq_some_iff.mp hlast
  have heq : leftover left ++ bytes = before ++ lf :: (rest ++ more) := by
    rw [← h.eq, ← List.append_assoc, hsplit, List.append_assoc, List.append_assoc]
    rfl
  have hcarried := h.carried
  rcases hcarried.eq_of_line_feed heq with ⟨rfl, rfl, rfl⟩ | ⟨a, rfl, rfl⟩
  · have hnone : script (payloadLines ([] ++ [lf])) = [] := by decide
    rw [hnone] at hserved
    exact ⟨false, rest ++ more, [], hserved, fun hgoing => ⟨hgoing, hslight, hcarried, hkept⟩,
      fun ms hms => hms.of_false⟩
  · have hscript : script (payloadLines (leftover left ++ (a ++ [cr]) ++ [lf])) =
        script ((breakAt cr lf a).map Utf8.lenient) := by
      rw [List.append_assoc, List.append_assoc, List.singleton_append,
        ← script_payloadLines_ending]
      cases left with
      | false => rfl
      | true => exact script_payloadLines_line_feed _
    rw [hscript] at hserved
    refine ⟨false, rest ++ more, breakAt cr lf a, hserved,
      fun hgoing => ⟨hgoing, hslight, hcarried.rest, hkept⟩, fun ms hms => ?_⟩
    rw [terminatedLines_append_ending]
    refine hms.append_whole fun l hl => ?_
    have hle := length_le_of_mem_breakAt cr_ne_lf hl
    rw [hsplit] at hfits
    simp only [List.length_append, List.length_singleton] at hfits
    omega

/-- **One piece.** When a piece arrives, the lines that it completes are run, less what was dropped
of them, or more of what waits is dropped. -/
theorem passed (hs : s.Faultless) (h : x.Continues left bytes (piece ++ more))
    (hpiece : piece.length ≤ readSize) : Passed x left bytes more (x.receive s piece) := by
  have hfits : (x.waiting ++ piece).length ≤ maxWaiting + readSize := by
    rw [List.length_append]
    exact Nat.add_le_add h.slight.length_le hpiece
  have hkept := h.slight.kept hpiece
  have hsettled := settled_settle (x.waiting ++ piece)
  generalize hshare : settle (x.waiting ++ piece) = share at hsettled hkept
  cases hsettled with
  | run eq last _ _ => exact h.passed_of_run hs hshare eq last hkept hfits
  | wait _ _ => exact h.passed_of_wait hshare hkept
  | drop incomplete long => exact h.passed_of_drop hshare incomplete long

/-! ## All pieces -/

/-- **All pieces.** When all pieces have arrived, lines have been run that may be run of the
terminated lines, up to the first that ends the session. -/
theorem served (hs : s.Faultless) {pieces : List (List UInt8)}
    (hpieces : ∀ p ∈ pieces, p ≠ [] ∧ p.length ≤ readSize)
    (h : x.Continues left bytes pieces.flatten) :
    ∃ ms, Curtailed left (terminatedLines bytes) ms ∧
      x.Served (script (ms.map Utf8.lenient)) ((pieces.map Delivery.bytes).foldl (next s) x) := by
  induction pieces generalizing x left bytes with
  | nil =>
    have hnone : terminatedLines bytes = [] := by
      have heq := h.eq
      have hunbroken := h.slight.incomplete.unbroken
      rw [List.flatten_nil, List.append_nil] at heq
      rw [heq] at hunbroken
      exact terminatedLines_of_unbroken hunbroken.right
    rw [hnone]
    exact ⟨[], .nil, served_nil rfl rfl rfl rfl Iff.rfl⟩
  | cons piece pieces ih =>
    obtain ⟨⟨hne, hlength⟩, hothers⟩ := List.forall_mem_cons.mp hpieces
    have hread : (x.record (.read piece.length)).Continues left bytes (piece ++ pieces.flatten) :=
      ⟨h.going, h.slight, h.carried, h.eq⟩
    have hpassed := hread.passed hs hlength
    rw [List.map_cons, List.foldl_cons, next_bytes_of_going s h.going hne]
    generalize (x.record (.read piece.length)).receive s piece = y at hpassed ⊢
    obtain ⟨left', bytes', ls, hreceived, hcontinues, hlines⟩ := hpassed
    have hserved := (served_record_read x piece.length).trans hreceived
    rw [List.nil_append] at hserved
    -- what may be run of the others counts only if the session has not ended
    obtain ⟨ms, hms, hrest⟩ : ∃ ms, Curtailed left' (terminatedLines bytes') ms ∧
        (y.status = .going → y.Served (script (ms.map Utf8.lenient))
          ((pieces.map Delivery.bytes).foldl (next s) y)) := by
      by_cases hgoing : y.status = .going
      · obtain ⟨ms, hms, hrest⟩ := ih hothers (hcontinues hgoing)
        exact ⟨ms, hms, fun _ => hrest⟩
      · obtain ⟨ms, hms⟩ := Curtailed.exists_curtailed left' (terminatedLines bytes')
        exact ⟨ms, hms, fun h => absurd h hgoing⟩
    refine ⟨ls ++ ms, hlines ms hms, ?_⟩
    rw [List.map_append]
    exact hserved.foldl_next h.going hrest

end Continues

/-! ## The run of a connection -/

/-- **Lines that are too long.** If no call fails and every line feed follows a carriage return,
then, whatever the lines are and however the bytes are cut into pieces: what is written is the
greeting and the answers of one session to the script of some lines that may be run of the
terminated lines; that script has been obeyed, and nothing else; the stream has been closed exactly
if it ends the session; and all went well. -/
theorem run_of_carried (setup : Setup) (hbytes : Carried bytes) (hs : s.Delivers bytes) :
    ∃ ms, Curtailed false (terminatedLines bytes) ms ∧
      (run setup s).output = Utf8.encode greeting ++
        Utf8.encode ((Canvas.blank setup).answers (script (ms.map Utf8.lenient))) ∧
      obeyed (run setup s).journal = script (ms.map Utf8.lenient) ∧
      (.closed ∈ (run setup s).events ↔ .quit ∈ script (ms.map Utf8.lenient)) ∧
      (run setup s).status = .over := by
  obtain ⟨hfaultless, pieces, hreads, hpieces, rfl⟩ := hs
  have hgreet := sent_greet hfaultless setup
  have hcontinues : (greet setup s).Continues false pieces.flatten pieces.flatten := by
    refine ⟨hgreet.status, ?_, hbytes, ?_⟩
    · rw [hgreet.waiting]
      exact slight_nil
    · rw [hgreet.waiting]
      rfl
  obtain ⟨ms, hms, hserved⟩ := hcontinues.served hfaultless hpieces
  rw [← hreads] at hserved
  obtain ⟨houtput, -, hobeyed, hclosed, hover⟩ := run_of_served setup hfaultless hserved
  exact ⟨ms, hms, houtput, hobeyed, hclosed, hover⟩

/-! ## One line -/

section flood

variable {n : Nat} {b : UInt8} {tail : List UInt8}

/-- The same byte so many reads long, and then one piece more. -/
def flood (n : Nat) (b : UInt8) (tail : List UInt8) : List (List UInt8) :=
  List.replicate n (List.replicate readSize b) ++ [tail]

theorem flatten_flood : (flood n b tail).flatten = List.replicate (n * readSize) b ++ tail := by
  rw [flood, List.flatten_append, List.flatten_replicate_replicate, List.flatten_singleton]

theorem fits_of_mem_flood (htail : tail ≠ [] ∧ tail.length ≤ readSize) :
    ∀ p ∈ flood n b tail, p ≠ [] ∧ p.length ≤ readSize := by
  intro p hp
  rw [flood, List.mem_append, List.mem_singleton] at hp
  rcases hp with hp | rfl
  · rw [List.eq_of_mem_replicate hp]
    exact ⟨List.cons_ne_nil b _, Nat.le_of_eq List.length_replicate⟩
  · exact htail

theorem delivers_flood (htail : tail ≠ [] ∧ tail.length ≤ readSize) :
    Stream.Delivers ⟨(flood n b tail).map .bytes, [], none, none⟩
      (List.replicate (n * readSize) b ++ tail) :=
  ⟨⟨rfl, Option.some_ne_none 0 ∘ Eq.symm, rfl⟩, _, rfl, fits_of_mem_flood htail, flatten_flood⟩

end flood

/-- **A line that must be too long.** Take a stream in which every line feed follows a carriage
return, and a line in it that is longer than what may wait and one read together, while no other
line that is terminated is too long to wait. If no call fails, then, however the bytes are cut: a
first part of the line is dropped, longer than what may wait, and the rest of it is run as a line of
its own, whatever it says. Only if there is no rest, some lines right behind it may be lost too, if
with one byte more they are too long.

So if no such rest gives a command, and the line behind is not of that length, then all that is
written, obeyed and closed is as if the line were not there. -/
theorem run_of_oversized (setup : Setup) {pre l post : List UInt8}
    (hpre : pre = [] ∨ [cr, lf] <:+ pre)
    (hl : Unbroken cr lf l) (hlong : maxWaiting + readSize < l.length)
    (hothers : ∀ q ∈ terminatedLines pre ++ terminatedLines post, q.length < maxWaiting)
    (hcarried : Carried (pre ++ (l ++ cr :: lf :: post)))
    (hs : s.Delivers (pre ++ (l ++ cr :: lf :: post))) :
    (∃ rest lost kept, rest <:+ l ∧ rest.length + maxWaiting < l.length ∧
      terminatedLines post = lost ++ kept ∧
      (∀ q ∈ lost, q.length + 1 = maxWaiting ∧ rest = []) ∧
      let ks := script ((terminatedLines pre ++ rest :: kept).map Utf8.lenient)
      (run setup s).output =
          Utf8.encode greeting ++ Utf8.encode ((Canvas.blank setup).answers ks) ∧
        obeyed (run setup s).journal = ks ∧ (.closed ∈ (run setup s).events ↔ .quit ∈ ks)) ∧
    (run setup s).status = .over ∧
    ((∀ rest, rest <:+ l → rest.length + maxWaiting < l.length →
        ∃ w, Reading.ofLine (Utf8.lenient rest) = .unknown w) →
      (∀ q ∈ (terminatedLines post).head?, q.length + 1 ≠ maxWaiting) →
      ∀ t : Stream, t.Delivers (pre ++ post) →
        (run setup s).output = (run setup t).output ∧
        obeyed (run setup s).journal = obeyed (run setup t).journal ∧
        (.closed ∈ (run setup s).events ↔ .closed ∈ (run setup t).events)) := by
  obtain ⟨hbefore, hbehind⟩ := List.forall_mem_append.mp hothers
  obtain ⟨lines, hlines, houtput, hobeyed, hclosed, hover⟩ := run_of_carried setup hcarried hs
  rw [terminatedLines_append hpre, terminatedLines_append_ending, breakAt_of_unbroken hl] at hlines
  obtain ⟨ms, rfl, hline⟩ := hlines.exists_of_short hbefore
  obtain ⟨rest, lost, kept, hrest, hlength, hpost, hlost, hms⟩ :=
    hline.exists_of_long (Nat.lt_add_right 2 hlong) hbehind
  have hempty : Reading.ofLine (Utf8.lenient []) = .unknown [] := by decide
  have hscript : script ((terminatedLines pre ++ ms).map Utf8.lenient) =
      script ((terminatedLines pre ++ rest :: kept).map Utf8.lenient) := by
    rcases hms with rfl | ⟨rfl, rfl⟩
    · rfl
    · rw [List.map_append, List.map_append, List.map_cons, script_append_cons_of_unknown hempty]
  rw [hscript] at houtput hobeyed hclosed
  refine ⟨⟨rest, lost, kept, hrest, hlength, hpost, hlost, houtput, hobeyed, hclosed⟩, hover,
    fun hunknown hnext t ht => ?_⟩
  have hnone : lost = [] := by
    cases lost with
    | nil => rfl
    | cons q lost =>
      rw [hpost] at hnext
      exact absurd (hlost q List.mem_cons_self).1 (hnext q rfl)
  rw [hnone, List.nil_append] at hpost
  obtain ⟨w, hw⟩ := hunknown rest hrest hlength
  have hsame : script ((terminatedLines pre ++ rest :: kept).map Utf8.lenient) =
      streamScript (pre ++ post) := by
    rw [streamScript, terminatedLines_append hpre, hpost, List.map_append, List.map_append,
      List.map_cons, script_append_cons_of_unknown hw]
  have hframed : Framed (pre ++ post) := by
    refine ⟨hcarried.left.append ?_, ?_⟩
    · rw [← List.append_assoc] at hcarried
      exact hcarried.rest
    · rw [terminatedLines_append hpre]
      exact hothers
  obtain ⟨houtput', -, hobeyed', hclosed', -⟩ := run_eq setup hframed ht
  rw [hsame] at houtput hobeyed hclosed
  exact ⟨houtput.trans houtput'.symm, hobeyed.trans hobeyed'.symm, hclosed.trans hclosed'.symm⟩

/-- A line of one letter that is in no word for a command, eighteen reads long: it is as if the line
were not there. -/
theorem run_of_oversized_letter :
    let l := List.replicate (18 * readSize) (0x78 : UInt8)
    let post := Utf8.encode "coord" ++ [cr, lf]
    let s : Stream := ⟨(flood 18 0x78 (cr :: lf :: post)).map .bytes, [], none, none⟩
    let t : Stream := ⟨[.bytes post], [], none, none⟩
    s.Delivers (l ++ cr :: lf :: post) ∧ t.Delivers post ∧
      (run .usual s).output = (run .usual t).output ∧
      (run .usual s).output = Utf8.encode "hello\r\n(15,15)\r\n" ∧
      .closed ∉ (run .usual s).events ∧ (run .usual s).status = .over := by
  intro l post s t
  have hlf : lf ∉ l := fun hmem => absurd (List.eq_of_mem_replicate hmem) (by decide)
  have hpost : Framed post :=
    ⟨Carried.ending (by decide) (carried_of_not_mem List.not_mem_nil), by decide⟩
  have hs : s.Delivers ([] ++ (l ++ cr :: lf :: post)) := delivers_flood (by decide)
  have ht : t.Delivers ([] ++ post) := ⟨⟨rfl, by decide, rfl⟩, [post], rfl, by decide, rfl⟩
  have hlong : maxWaiting + readSize < l.length := by
    rw [List.length_replicate]
    decide
  have hcarried : Carried ([] ++ (l ++ cr :: lf :: post)) := Carried.ending hlf hpost.carried
  have hothers : ∀ q ∈ terminatedLines [] ++ terminatedLines post, q.length < maxWaiting :=
    hpost.short
  obtain ⟨-, hover, hsame⟩ := run_of_oversized .usual (Or.inl rfl)
    (unbroken_of_not_mem (Or.inr hlf)) hlong hothers hcarried hs
  obtain ⟨houtput, -, hclosed⟩ := hsame (fun rest hrest _ => by
    rw [(List.suffix_replicate_iff.mp hrest).2, Utf8.lenient_replicate_ascii (by decide)]
    refine Reading.exists_unknown_of_forall fun c hc v => ?_
    rw [List.eq_of_mem_replicate hc]
    cases v <;> decide) (by decide) t ht
  obtain ⟨houtput', -, -, hclosed', -⟩ := run_eq .usual hpost ht
  refine ⟨hs, ht, houtput, (houtput.trans houtput').trans (by decide +kernel), ?_, hover⟩
  rw [hclosed, hclosed']
  decide

/-! ## What a line can be made to say -/

/-- Pieces without a line feed are kept as long as they are not too many bytes. -/
theorem served_of_short {ps : List (List UInt8)} (hx : x.status = .going)
    (hlf : lf ∉ x.waiting ++ ps.flatten) (hne : ∀ p ∈ ps, p ≠ [])
    (hshort : (x.waiting ++ ps.flatten).length ≤ maxWaiting) :
    x.Served [] ((ps.map Delivery.bytes).foldl (next s) x) ∧
      ((ps.map Delivery.bytes).foldl (next s) x).waiting = x.waiting ++ ps.flatten := by
  induction ps generalizing x with
  | nil => exact ⟨served_nil rfl rfl rfl rfl Iff.rfl, (List.append_nil _).symm⟩
  | cons p ps ih =>
    rw [List.flatten_cons, ← List.append_assoc] at hlf hshort ⊢
    obtain ⟨hp, hothers⟩ := List.forall_mem_cons.mp hne
    have hlf' : lf ∉ x.waiting ++ p := fun hmem => hlf (List.mem_append_left _ hmem)
    have hshort' : (x.waiting ++ p).length ≤ maxWaiting := by
      rw [List.length_append] at hshort
      exact Nat.le_trans (Nat.le_add_right _ _) hshort
    have hnext : next s x (.bytes p) =
        { x.record (.read p.length) with waiting := x.waiting ++ p } :=
      (next_bytes_of_going s hx hp).trans (receive_of_not_mem hlf' hshort')
    have hserved : x.Served [] { x.record (.read p.length) with waiting := x.waiting ++ p } :=
      served_nil rfl (output_record_read x p.length) rfl rfl (by simp [record])
    rw [List.map_cons, List.foldl_cons, hnext]
    obtain ⟨hall, hwaiting⟩ :=
      ih (x := { x.record (.read p.length) with waiting := x.waiting ++ p }) hx hlf hothers hshort
    exact ⟨hserved.trans hall, hwaiting⟩

/-- When too much waits with a piece without a line feed, nothing waits any more, and nothing else
has come of it. -/
theorem served_next_of_long {p : List UInt8} (hx : x.status = .going) (hp : p ≠ [])
    (hlf : lf ∉ x.waiting ++ p) (hlong : maxWaiting < (x.waiting ++ p).length) :
    x.Served [] (next s x (.bytes p)) ∧ (next s x (.bytes p)).waiting = [] := by
  have hdrop : settle (x.waiting ++ p) = .drop (x.waiting ++ p) := by
    rw [(carried_of_not_mem hlf).settle_of_unbroken (unbroken_of_not_mem (Or.inr hlf)),
      if_pos hlong]
  have hnext : next s x (.bytes p) =
      { x.record (.read p.length) with
        waiting := [], journal := x.journal.push (.discarding (x.waiting ++ p).length) } :=
    (next_bytes_of_going s hx hp).trans (receive_of_drop hdrop)
  rw [hnext]
  refine ⟨?_, rfl⟩
  exact served_nil rfl (output_record_read x p.length) (obeyed_push rfl x.journal) rfl
    (by simp [record])

/-- When too much has come without a line feed, the connection is as if nothing had come. -/
theorem served_of_flood (hs : s.Faultless) {ps qs : List (List UInt8)} {p : List UInt8}
    (hx : x.status = .going) (hempty : x.waiting = []) (hne : ∀ q ∈ ps ++ p :: qs, q ≠ [])
    (hlf : lf ∉ ps.flatten ++ p) (hshort : ps.flatten.length ≤ maxWaiting)
    (hlong : maxWaiting < (ps.flatten ++ p).length) (hrest : Framed qs.flatten) :
    x.Served (streamScript qs.flatten)
      (((ps ++ p :: qs).map Delivery.bytes).foldl (next s) x) := by
  rw [List.forall_mem_append, List.forall_mem_cons] at hne
  obtain ⟨hps, hp, hqs⟩ := hne
  rw [List.map_append, List.map_cons, List.foldl_append, List.foldl_cons]
  have hlf' : lf ∉ x.waiting ++ ps.flatten := by
    rw [hempty]
    exact fun hmem => hlf (List.mem_append_left p hmem)
  have hshort' : (x.waiting ++ ps.flatten).length ≤ maxWaiting := by
    rw [hempty]
    exact hshort
  obtain ⟨hkept, hwaiting⟩ := served_of_short (s := s) hx hlf' hps hshort'
  rw [hempty, List.nil_append] at hwaiting
  generalize (ps.map Delivery.bytes).foldl (next s) x = y at hkept hwaiting ⊢
  have hgoing : y.status = .going := hkept.status.trans hx
  rw [← hwaiting] at hlf hlong
  obtain ⟨hdropped, hnone⟩ := served_next_of_long (s := s) hgoing hp hlf hlong
  generalize next s y (.bytes p) = z at hdropped hnone ⊢
  have hawaits : z.Awaits qs.flatten := by
    refine ⟨hdropped.status.trans hgoing, ?_, ?_⟩
    · rw [hnone]
      exact unbroken_nil cr lf
    · rw [hnone]
      exact hrest
  have hserved := hawaits.served hs hqs
  rw [hnone] at hserved
  exact hkept.trans (hdropped.trans hserved)

/-- **What comes behind a line that is too long.** Let pieces without a line feed come to more bytes
than may wait, and not before the last of them. Then what is delivered behind them is run as if
nothing had come before it, although the line has not ended. -/
theorem run_of_flood (setup : Setup) {ps qs : List (List UInt8)} {p : List UInt8}
    (hs : s.Brings (ps ++ p :: qs)) (hlf : lf ∉ ps.flatten ++ p)
    (hshort : ps.flatten.length ≤ maxWaiting) (hlong : maxWaiting < (ps.flatten ++ p).length)
    (hrest : Framed qs.flatten) :
    (run setup s).output = Utf8.encode greeting ++
        Utf8.encode ((Canvas.blank setup).answers (streamScript qs.flatten)) ∧
      obeyed (run setup s).journal = streamScript qs.flatten ∧
      (.closed ∈ (run setup s).events ↔ .quit ∈ streamScript qs.flatten) ∧
      (run setup s).status = .over := by
  have hgreet := sent_greet hs.faultless setup
  have hserved := served_of_flood hs.faultless hgreet.status hgreet.waiting hs.ne_nil hlf hshort
    hlong hrest
  rw [← hs.reads] at hserved
  obtain ⟨houtput, -, hobeyed, hclosed, hover⟩ := run_of_served setup hs.faultless hserved
  exact ⟨houtput, hobeyed, hclosed, hover⟩

/-- A line of one letter, seventeen reads long, with the word behind it that ends the session: it
does end the session, and the next line is not run, although it is if the line is not there. -/
theorem run_of_oversized_quit :
    let l := List.replicate (17 * readSize) (0x78 : UInt8) ++ Utf8.encode "quit"
    let post := Utf8.encode "coord" ++ [cr, lf]
    let tail := Utf8.encode "quit" ++ cr :: lf :: post
    let s : Stream := ⟨(flood 17 0x78 tail).map .bytes, [], none, none⟩
    let t : Stream := ⟨[.bytes post], [], none, none⟩
    maxWaiting + readSize < l.length ∧ Unbroken cr lf l ∧ Carried (l ++ cr :: lf :: post) ∧
      (∀ q ∈ terminatedLines post, q.length < maxWaiting) ∧
      s.Delivers (l ++ cr :: lf :: post) ∧ t.Delivers post ∧
      (run .usual s).output = Utf8.encode "hello\r\n" ∧
      obeyed (run .usual s).journal = [.quit] ∧ .closed ∈ (run .usual s).events ∧
      (run .usual t).output = Utf8.encode "hello\r\n(15,15)\r\n" ∧
      .closed ∉ (run .usual t).events := by
  intro l post tail s t
  have hblocks : lf ∉ List.replicate (17 * readSize) (0x78 : UInt8) := fun hmem =>
    absurd (List.eq_of_mem_replicate hmem) (by decide)
  have hlf : lf ∉ l := by
    rw [List.mem_append, not_or]
    exact ⟨hblocks, by decide⟩
  have hpost : Framed post :=
    ⟨Carried.ending (by decide) (carried_of_not_mem List.not_mem_nil), by decide⟩
  have htail : Framed [tail].flatten := by
    rw [List.flatten_singleton]
    exact ⟨Carried.ending (by decide) hpost.carried, by decide⟩
  have hs : s.Delivers (l ++ cr :: lf :: post) := by
    rw [List.append_assoc]
    exact delivers_flood (by decide)
  have ht : t.Delivers post := ⟨⟨rfl, by decide, rfl⟩, [post], rfl, by decide, rfl⟩
  -- the seventeenth read is the one that makes it too much
  have hsplit : flood 17 0x78 tail = List.replicate 16 (List.replicate readSize 0x78) ++
      List.replicate readSize 0x78 :: [tail] := by
    rw [flood, List.replicate_succ', List.append_assoc]
    rfl
  have hbrings : s.Brings (List.replicate 16 (List.replicate readSize 0x78) ++
      List.replicate readSize 0x78 :: [tail]) := by
    rw [← hsplit]
    exact ⟨hs.1, rfl, fun p hp => (fits_of_mem_flood (by decide) p hp).1⟩
  have hflood : (List.replicate 16 (List.replicate readSize (0x78 : UInt8))).flatten ++
      List.replicate readSize 0x78 = List.replicate (17 * readSize) 0x78 := by
    rw [List.flatten_replicate_replicate, List.replicate_append_replicate]
    rfl
  obtain ⟨houtput, hobeyed, hclosed, -⟩ := run_of_flood .usual hbrings
    (by rw [hflood]; exact hblocks)
    (by rw [List.flatten_replicate_replicate, List.length_replicate]; decide)
    (by rw [hflood, List.length_replicate]; decide) htail
  obtain ⟨houtput', -, -, hclosed', -⟩ := run_eq .usual hpost ht
  refine ⟨?_, unbroken_of_not_mem (Or.inr hlf), Carried.ending hlf hpost.carried, hpost.short, hs,
    ht, houtput.trans (by decide +kernel), hobeyed.trans (by decide +kernel), ?_,
    houtput'.trans (by decide +kernel), ?_⟩
  · rw [List.length_append, List.length_replicate]
    decide
  · rw [hclosed]
    decide
  · rw [hclosed']
    decide

end Connection

end Plotter
