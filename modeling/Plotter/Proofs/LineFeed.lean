import Plotter.Proofs.Delivery

/-!
# Lines that end in a line feed alone

A client may end its lines with a line feed alone, if the line feed is the last byte of the piece in
which it arrives. It is then served as if it had ended them with carriage return and line feed
(`Connection.run_of_line_feeds`), although the two are framed in different ways: what ends in a line
feed is run whole, as one line that still has the line feed in it, and the other is cut behind the
last end of a line and broken there.

The invariant of the first way is `Connection.Gathers`: the bytes that wait are the beginning of the
first line that is still to be run, and what waits together with what is still to come makes up the
lines that are still to be run. A piece without a line feed is added to what waits
(`receive_of_not_mem`); a piece with one completes the line (`served_receive_of_last`).
-/

namespace Plotter

open Text Framing

/-! ## One line -/

/-- The line feed that is left in a line is not read. -/
theorem Reading.ofLine_concat_newline (l : List Char) :
    Reading.ofLine (l ++ ['\n']) = Reading.ofLine l := by
  have hfilter : (l ++ ['\n']).filter (fun c => c != '\r' && c != '\n') =
      l.filter fun c => c != '\r' && c != '\n' := by
    rw [List.filter_append]
    exact List.append_nil _
  unfold Reading.ofLine normal
  rw [hfilter]

/-- A payload that is one line with a line feed behind it has the script of the line. -/
theorem script_payloadLines_concat {l : List UInt8} (hcr : cr ∉ l) :
    script (payloadLines (l ++ [lf])) = script [Utf8.lenient l] := by
  have hone : Unbroken cr lf (l ++ [lf]) := by
    refine unbroken_of_not_mem (Or.inl ?_)
    rw [List.mem_append, not_or]
    exact ⟨hcr, by decide⟩
  have hdecoded : Utf8.lenient (l ++ [lf]) = Utf8.lenient l ++ ['\n'] :=
    Utf8.lenient_append_ascii l [] (by decide)
  rw [payloadLines_eq_map_lenient, breakAt_of_unbroken hone, List.map_singleton, hdecoded]
  unfold script
  rw [List.filterMap_cons, List.filterMap_cons, Reading.ofLine_concat_newline]

/-- A line that may be ended in either way: it has no carriage return and no line feed in it, and
leaves room for one of them among what may wait. -/
structure Endable (l : List UInt8) : Prop where
  short : l.length ≤ 65535
  cr_not_mem : cr ∉ l
  lf_not_mem : lf ∉ l

theorem Endable.unbroken {l : List UInt8} (h : Endable l) : Unbroken cr lf l :=
  unbroken_of_not_mem (Or.inl h.cr_not_mem)

/-- With carriage return and line feed behind each, such lines make up a stream of short lines. -/
theorem framed_of_endable {ls : List (List UInt8)} (h : ∀ l ∈ ls, Endable l) :
    Framed (ls.flatMap (· ++ [cr, lf])) := by
  constructor
  · induction ls with
    | nil => exact carried_of_not_mem List.not_mem_nil
    | cons l ls ih =>
      rw [List.forall_mem_cons] at h
      rw [List.flatMap_cons, List.append_assoc]
      exact Carried.ending h.1.lf_not_mem (ih h.2)
  · rw [terminatedLines_flatMap_ending fun l hl => (h l hl).unbroken]
    intro l hl
    exact Nat.lt_succ_of_le (h l hl).short

namespace Connection

variable {s : Stream} {x : Connection} {piece more : List UInt8}

/-! ## One piece -/

/-- Where there is no line feed and all may wait, all waits. -/
theorem receive_of_not_mem (hlf : lf ∉ x.waiting ++ piece)
    (hshort : (x.waiting ++ piece).length ≤ maxWaiting) :
    x.receive s piece = { x with waiting := x.waiting ++ piece } := by
  have hsettle := (carried_of_not_mem hlf).settle_of_unbroken (unbroken_of_not_mem (Or.inr hlf))
  rw [if_neg (Nat.not_lt.mpr hshort)] at hsettle
  exact receive_of_wait hsettle

/-- A piece with a line feed at its end completes the line whose beginning waits. -/
theorem served_receive_of_last (hs : s.Faultless) (hx : x.status = .going)
    (hcr : cr ∉ x.waiting ++ piece) :
    x.Served (script [Utf8.lenient (x.waiting ++ piece)]) (x.receive s (piece ++ [lf])) ∧
      (x.receive s (piece ++ [lf])).waiting = [] := by
  have hsettle : settle (x.waiting ++ (piece ++ [lf])) = .run (x.waiting ++ piece ++ [lf]) [] := by
    rw [← List.append_assoc]
    exact settle_of_last List.getLast?_concat
  obtain ⟨hserved, hwaiting⟩ := served_receive_of_run hs hx hsettle
  rw [script_payloadLines_concat hcr] at hserved
  exact ⟨hserved, hwaiting⟩

/-! ## All pieces -/

/-- An open connection that will receive so many more bytes and has these lines still to run: what
waits is part of one line, and together with what is to come it makes up the lines. -/
structure Gathers (x : Connection) (more : List UInt8) (ls : List (List UInt8)) : Prop where
  going : x.status = .going
  lf_not_mem : lf ∉ x.waiting
  eq : x.waiting ++ more = ls.flatMap (· ++ [lf])
  endable : ∀ l ∈ ls, Endable l

namespace Gathers

variable {ls : List (List UInt8)}

/-- Before a line feed stands the first line, with what waits of it. -/
theorem exists_of_line_feed (h : x.Gathers (piece ++ [lf] ++ more) ls) (hpiece : lf ∉ piece) :
    ∃ ms, ls = (x.waiting ++ piece) :: ms ∧ more = ms.flatMap (· ++ [lf]) := by
  have heq := h.eq
  cases ls with
  | nil => simp at heq
  | cons l ms =>
    have hline : lf ∉ x.waiting ++ piece := by
      rw [List.mem_append, not_or]
      exact ⟨h.lf_not_mem, hpiece⟩
    have hl : lf ∉ l := (h.endable l List.mem_cons_self).lf_not_mem
    have hcut : (x.waiting ++ piece) ++ lf :: more = l ++ lf :: ms.flatMap (· ++ [lf]) := by
      simpa using heq
    obtain ⟨rfl, hmore⟩ := append_cons_inj_of_not_mem hline hl hcut
    exact ⟨ms, rfl, hmore⟩

/-- What waits together with a piece may wait, if there is no line feed in the piece: it is no
longer than the first line. -/
theorem length_le (h : x.Gathers (piece ++ more) ls) (hpiece : lf ∉ piece) :
    (x.waiting ++ piece).length ≤ maxWaiting := by
  have heq := h.eq
  rw [← List.append_assoc] at heq
  cases ls with
  | nil =>
    have hnone : x.waiting ++ piece = [] := (List.append_eq_nil_iff.mp heq).1
    rw [hnone]
    exact Nat.zero_le _
  | cons l ms =>
    have hshort := (h.endable l List.mem_cons_self).short
    by_contra hlong
    have hprefix : l ++ [lf] <+: x.waiting ++ piece := by
      refine List.prefix_of_prefix_length_le ⟨_, heq.symm⟩ (List.prefix_append ..) ?_
      rw [List.length_append, List.length_singleton]
      exact Nat.succ_le_of_lt
        (Nat.lt_of_le_of_lt (Nat.le_succ_of_le hshort) (Nat.lt_of_not_le hlong))
    have hmem : lf ∈ x.waiting ++ piece :=
      hprefix.subset (List.mem_append_right l (List.mem_singleton_self lf))
    rcases List.mem_append.mp hmem with hmem | hmem
    · exact h.lf_not_mem hmem
    · exact hpiece hmem

/-- The connection `y` is what comes of `x` when a piece has arrived and so many more bytes are to
come: some of the lines have been run, and if the session has not ended, the others are still to be
run. -/
def Advanced (x : Connection) (more : List UInt8) (ls : List (List UInt8)) (y : Connection) :
    Prop :=
  ∃ done rest, ls = done ++ rest ∧ x.Served (script (done.map Utf8.lenient)) y ∧
    (y.status = .going → y.Gathers more rest)

/-- A piece without a line feed is added to what waits, and no line is run. -/
theorem advanced_of_not_mem (h : x.Gathers (piece ++ more) ls) (hne : piece ≠ [])
    (hpiece : lf ∉ piece) : Advanced x more ls (next s x (.bytes piece)) := by
  have hline : lf ∉ x.waiting ++ piece := by
    rw [List.mem_append, not_or]
    exact ⟨h.lf_not_mem, hpiece⟩
  have hnext : next s x (.bytes piece) =
      { x.record (.read piece.length) with waiting := x.waiting ++ piece } :=
    (next_bytes_of_going s h.going hne).trans (receive_of_not_mem hline (h.length_le hpiece))
  have heq := h.eq
  rw [← List.append_assoc] at heq
  rw [hnext]
  refine ⟨[], ls, rfl, ?_, fun _ => ⟨h.going, hline, heq, h.endable⟩⟩
  exact served_nil rfl (output_record_read x piece.length) rfl rfl (by simp [record])

/-- A piece that ends in a line feed completes the first line, which is run. -/
theorem advanced_of_line_feed (hs : s.Faultless) (h : x.Gathers (piece ++ [lf] ++ more) ls)
    (hpiece : lf ∉ piece) : Advanced x more ls (next s x (.bytes (piece ++ [lf]))) := by
  obtain ⟨ms, rfl, hmore⟩ := h.exists_of_line_feed hpiece
  obtain ⟨hfirst, hothers⟩ := List.forall_mem_cons.mp h.endable
  have hread := served_record_read x (piece ++ [lf]).length
  obtain ⟨hserved, hwaiting⟩ := served_receive_of_last
    (x := x.record (.read (piece ++ [lf]).length)) hs h.going hfirst.cr_not_mem
  rw [next_bytes_of_going s h.going (List.concat_ne_nil lf piece)]
  refine ⟨[x.waiting ++ piece], ms, rfl, hread.trans hserved, fun hgoing => ?_⟩
  refine ⟨hgoing, ?_, ?_, hothers⟩
  · rw [hwaiting]
    exact List.not_mem_nil
  · rw [hwaiting]
    exact hmore

/-- **One piece.** When a piece arrives that holds no line feed but perhaps as its last byte, the
lines that it completes are run, and all others are still to be run. -/
theorem advanced (hs : s.Faultless) (h : x.Gathers (piece ++ more) ls) (hne : piece ≠ [])
    (hlast : lf ∉ piece.dropLast) : Advanced x more ls (next s x (.bytes piece)) := by
  obtain ⟨body, b, rfl⟩ := (List.eq_nil_or_concat' piece).resolve_left hne
  rw [List.dropLast_concat] at hlast
  by_cases hb : b = lf
  · subst hb
    exact h.advanced_of_line_feed hs hlast
  · refine h.advanced_of_not_mem hne ?_
    rw [List.mem_append, List.mem_singleton, not_or]
    exact ⟨hlast, Ne.symm hb⟩

/-- **All pieces.** When all pieces have arrived, the lines have been run, up to the first that ends
the session. -/
theorem served (hs : s.Faultless) {pieces : List (List UInt8)}
    (hpieces : ∀ p ∈ pieces, p ≠ [] ∧ lf ∉ p.dropLast) (h : x.Gathers pieces.flatten ls) :
    x.Served (script (ls.map Utf8.lenient)) ((pieces.map Delivery.bytes).foldl (next s) x) := by
  induction pieces generalizing x ls with
  | nil =>
    have heq := h.eq
    rw [List.flatten_nil, List.append_nil] at heq
    cases ls with
    | nil => exact served_nil rfl rfl rfl rfl Iff.rfl
    | cons l ms =>
      refine absurd ?_ h.lf_not_mem
      rw [heq, List.flatMap_cons]
      simp
  | cons piece pieces ih =>
    obtain ⟨⟨hne, hlast⟩, hothers⟩ := List.forall_mem_cons.mp hpieces
    obtain ⟨done, rest, rfl, hserved, hrest⟩ := h.advanced hs hne hlast
    rw [List.map_cons, List.foldl_cons, List.map_append]
    exact hserved.foldl_next h.going fun hgoing => ih hothers (hrest hgoing)

end Gathers

/-! ## The two ways -/

/-- **A line feed alone ends a line.** Take lines of any bytes but carriage returns and line feeds,
none of them too long to wait for its end. One stream brings them with a line feed behind each, cut
so that a line feed is the last byte of its piece; another brings them with carriage return and line
feed behind each, cut in any way. If no call fails on either, then the same is written to both, the
greeting and the answers of one session to the script of the lines, and either both are closed or
neither. -/
theorem run_of_line_feeds (setup : Setup) {ls : List (List UInt8)} (hls : ∀ l ∈ ls, Endable l)
    {s t : Stream} {ps qs : List (List UInt8)}
    (hs : s.Brings ps) (hps : ps.flatten = ls.flatMap (· ++ [lf]))
    (hlast : ∀ p ∈ ps, lf ∉ p.dropLast)
    (ht : t.Brings qs) (hqs : qs.flatten = ls.flatMap (· ++ [cr, lf])) :
    (run setup s).output = (run setup t).output ∧
      (.closed ∈ (run setup s).events ↔ .closed ∈ (run setup t).events) ∧
      (run setup s).output = Utf8.encode greeting ++
        Utf8.encode ((Canvas.blank setup).answers (script (ls.map Utf8.lenient))) := by
  have hgreet := sent_greet hs.faultless setup
  have hgathers : (greet setup s).Gathers ps.flatten ls := by
    refine ⟨hgreet.status, ?_, ?_, hls⟩
    · rw [hgreet.waiting]
      exact List.not_mem_nil
    · rw [hgreet.waiting, hps]
      rfl
  have hserved := hgathers.served hs.faultless fun p hp => ⟨hs.ne_nil p hp, hlast p hp⟩
  rw [← hs.reads] at hserved
  have hframed : Framed qs.flatten := by
    rw [hqs]
    exact framed_of_endable hls
  have hscript : streamScript qs.flatten = script (ls.map Utf8.lenient) := by
    rw [streamScript, hqs, terminatedLines_flatMap_ending fun l hl => (hls l hl).unbroken]
  have hserved' := served_of_brings setup ht hframed
  rw [hscript] at hserved'
  obtain ⟨houtput, -, -, hclosed, -⟩ := run_of_served setup hs.faultless hserved
  obtain ⟨houtput', -, -, hclosed', -⟩ := run_of_served setup ht.faultless hserved'
  exact ⟨houtput.trans houtput'.symm, hclosed.trans hclosed'.symm, houtput⟩

/-- A client that cuts its lines in their middle, and one that cuts the end of a line and has writes
of three bytes at most. -/
theorem run_of_line_feeds_quit :
    let s : Stream :=
      ⟨[.bytes (Utf8.encode "co"), .bytes (Utf8.encode "ord\n"), .bytes (Utf8.encode "quit\n"),
        .bytes (Utf8.encode "render\n")], [], none, none⟩
    let t : Stream :=
      ⟨[.bytes (Utf8.encode "coord\r\nquit\r"), .bytes (Utf8.encode "\nrender\r\n")], [], some 3,
        none⟩
    (run .usual s).output = (run .usual t).output ∧
      (.closed ∈ (run .usual s).events ↔ .closed ∈ (run .usual t).events) ∧
      (run .usual s).output = Utf8.encode "hello\r\n(15,15)\r\n" := by
  intro s t
  have hls : ∀ l ∈ [Utf8.encode "coord", Utf8.encode "quit", Utf8.encode "render"], Endable l := by
    intro l hl
    simp only [List.mem_cons, List.not_mem_nil, or_false] at hl
    rcases hl with rfl | rfl | rfl <;> exact ⟨by decide, by decide, by decide⟩
  have hs : s.Brings [Utf8.encode "co", Utf8.encode "ord\n", Utf8.encode "quit\n",
      Utf8.encode "render\n"] := ⟨⟨rfl, by decide, rfl⟩, rfl, by decide⟩
  have ht : t.Brings [Utf8.encode "coord\r\nquit\r", Utf8.encode "\nrender\r\n"] :=
    ⟨⟨rfl, by decide, rfl⟩, rfl, by decide⟩
  obtain ⟨hsame, hclosed, houtput⟩ :=
    run_of_line_feeds .usual hls hs (by decide) (by decide) ht (by decide)
  exact ⟨hsame, hclosed, houtput.trans (by decide +kernel)⟩

end Connection

end Plotter
