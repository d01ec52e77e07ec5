import Plotter.Framing
import Plotter.Proofs.Text.Breaking

/-!
# Framing

What of the bytes that have arrived is run, told by the ends of lines in them. What is known after
one byte after the other is the last end of a line (`eq_of_whole_seen`) and whether there is one
(`whole_seen_eq_none_iff`). From it follows what is done with any bytes at all (`settled_settle`):
what ends in a line feed is run, and behind it is kept what nothing can be run of (`Incomplete`).

The rest of the file is about streams in which every line feed follows a carriage return
(`Carried`). Of those, what is run goes up to the last end of a line and no further
(`settle_of_not_unbroken`), and what has no end of a line in it waits or is dropped
(`settle_of_unbroken`). If the terminated lines are short enough besides (`Framed`), nothing of a
terminated line is ever dropped: when bytes are dropped, no line is terminated in them or after them
(`Framed.unbroken_of_long`).
-/

namespace Plotter.Framing

open Text

theorem cr_ne_lf : cr ≠ lf := by decide

/-! ## What is known of bytes -/

theorem last_seen (bytes : List UInt8) : (seen bytes).last = bytes.getLast? := by
  induction bytes using List.reverseRecOn with
  | nil => rfl
  | append_singleton bytes b _ =>
    rw [seen_concat, List.getLast?_concat]
    rfl

theorem whole_seen_concat (bytes : List UInt8) (b : UInt8) :
    (seen (bytes ++ [b])).whole =
      if b = lf ∧ bytes.getLast? = some cr then some (bytes.length + 1)
      else (seen bytes).whole := by
  rw [seen_concat, Seen.next, last_seen, length_seen]

/-- An end of a line is known of exactly if there is one. -/
theorem whole_seen_eq_none_iff {bytes : List UInt8} :
    (seen bytes).whole = none ↔ Unbroken cr lf bytes := by
  induction bytes using List.reverseRecOn with
  | nil => simp [unbroken_nil]
  | append_singleton bytes b ih =>
    rw [whole_seen_concat, unbroken_concat, ← ih]
    split
    · next h => simp [h]
    · next h => simp [h]

/-- The end of a line that is known of is the last one. -/
theorem eq_of_whole_seen {bytes : List UInt8} {n : Nat} (h : (seen bytes).whole = some n) :
    ∃ a b, bytes = a ++ cr :: lf :: b ∧ n = a.length + 2 ∧ Unbroken cr lf b := by
  induction bytes using List.reverseRecOn with
  | nil => cases h
  | append_singleton bytes x ih =>
    rw [whole_seen_concat] at h
    split at h
    · next hx =>
      obtain ⟨rfl, hcr⟩ := hx
      obtain ⟨a, rfl⟩ := List.getLast?_eq_some_iff.1 hcr
      refine ⟨a, [], by simp, ?_, unbroken_nil cr lf⟩
      simpa using (Option.some.inj h).symm
    · next hx =>
      obtain ⟨a, b, rfl, hn, hb⟩ := ih h
      refine ⟨a, b ++ [x], by simp, hn, unbroken_concat.2 ⟨hb, ?_⟩⟩
      rintro ⟨rfl, hcr⟩
      obtain ⟨t, rfl⟩ := List.getLast?_eq_some_iff.1 hcr
      exact hx ⟨rfl, List.getLast?_eq_some_iff.2 ⟨a ++ cr :: lf :: t, by simp⟩⟩

/-! ## What is done with bytes -/

/-- Bytes of which nothing can be run: no line ends in them, and they do not end in a line feed. -/
structure Incomplete (bytes : List UInt8) : Prop where
  /-- No line ends in them. -/
  unbroken : Unbroken cr lf bytes
  /-- They do not end in a line feed. -/
  last : bytes.getLast? ≠ some lf

theorem incomplete_nil : Incomplete [] := ⟨unbroken_nil cr lf, by simp⟩

/-- What is done with bytes, told without the rule by which it is found out. -/
inductive Settled (bytes : List UInt8) : Share → Prop
  /-- A first part that ends in a line feed is run. What is behind it is incomplete, and if it is
  anything at all, then the first part ends in the end of a line. -/
  | run {payload rest : List UInt8} (eq : bytes = payload ++ rest)
      (last : payload.getLast? = some lf) (incomplete : Incomplete rest)
      (cut : rest = [] ∨ [cr, lf] <:+ payload) : Settled bytes (.run payload rest)
  /-- Incomplete bytes wait, if there are not too many. -/
  | wait (incomplete : Incomplete bytes) (short : bytes.length ≤ maxWaiting) :
      Settled bytes (.wait bytes)
  /-- Incomplete bytes are dropped, if there are too many. -/
  | drop (incomplete : Incomplete bytes) (long : maxWaiting < bytes.length) :
      Settled bytes (.drop bytes)

theorem completeLength?_of_last {bytes : List UInt8} (h : bytes.getLast? = some lf) :
    completeLength? bytes = some bytes.length := by
  rw [completeLength?, last_seen, if_pos h, length_seen]

theorem completeLength?_of_not_last {bytes : List UInt8} (h : bytes.getLast? ≠ some lf) :
    completeLength? bytes = (seen bytes).whole := by
  rw [completeLength?, last_seen, if_neg h]

/-- What ends in a line feed is run as it is. -/
theorem settle_of_last {bytes : List UInt8} (h : bytes.getLast? = some lf) :
    settle bytes = .run bytes [] := by
  rw [settle, completeLength?_of_last h]
  simp only [List.take_length, List.drop_length]

theorem settled_of_last {bytes : List UInt8} (h : bytes.getLast? = some lf) :
    Settled bytes (settle bytes) := by
  rw [settle_of_last h]
  exact .run (List.append_nil bytes).symm h incomplete_nil (Or.inl rfl)

/-- What ends in no line feed is run up to the last end of a line. -/
theorem settled_of_whole {bytes : List UInt8} (h : bytes.getLast? ≠ some lf) {n : Nat}
    (hn : (seen bytes).whole = some n) : Settled bytes (settle bytes) := by
  have hcomplete : completeLength? bytes = some n := (completeLength?_of_not_last h).trans hn
  obtain ⟨a, b, hab, hlength, hb⟩ := eq_of_whole_seen hn
  have hsplit : bytes = (a ++ [cr, lf]) ++ b := by simpa using hab
  have hpayload : n = (a ++ [cr, lf]).length := by simpa using hlength
  have hlast : b.getLast? ≠ some lf := by
    intro hlf
    obtain ⟨t, rfl⟩ := List.getLast?_eq_some_iff.1 hlf
    apply h
    rw [hsplit, ← List.append_assoc]
    exact List.getLast?_concat
  rw [settle, hcomplete, hsplit, hpayload]
  simp only [List.take_left, List.drop_left]
  exact .run rfl (by simp) ⟨hb, hlast⟩ (Or.inr (List.suffix_append a [cr, lf]))

/-- **What is done with bytes.** Each byte is run, waits or is dropped, and what waits or is dropped
is incomplete. -/
theorem settled_settle (bytes : List UInt8) : Settled bytes (settle bytes) := by
  by_cases hlast : bytes.getLast? = some lf
  · exact settled_of_last hlast
  · rcases hwhole : (seen bytes).whole with _ | n
    · have hincomplete : Incomplete bytes := ⟨whole_seen_eq_none_iff.1 hwhole, hlast⟩
      have hnone : completeLength? bytes = none := (completeLength?_of_not_last hlast).trans hwhole
      rw [settle, hnone]
      by_cases hlong : maxWaiting < bytes.length
      · simp only [if_pos hlong]
        exact .drop hincomplete hlong
      · simp only [if_neg hlong]
        exact .wait hincomplete (Nat.le_of_not_lt hlong)
    · exact settled_of_whole hlast hwhole

namespace Share

/-- The bytes that are run, if any are. -/
def payload? : Share → Option (List UInt8)
  | run payload _ => some payload
  | wait _ => none
  | drop _ => none

/-- The bytes that are run or dropped. -/
def spent : Share → List UInt8
  | run payload _ => payload
  | wait _ => []
  | drop bytes => bytes

/-- The bytes that wait. -/
def kept : Share → List UInt8
  | run _ rest => rest
  | wait bytes => bytes
  | drop _ => []

end Share

namespace Settled

variable {bytes : List UInt8} {share : Share}

/-- No byte is lost, and the order is kept. -/
theorem spent_append_kept (h : Settled bytes share) : share.spent ++ share.kept = bytes := by
  cases h with
  | run eq _ _ _ => exact eq.symm
  | wait _ _ => rfl
  | drop _ _ => exact List.append_nil bytes

theorem incomplete_kept (h : Settled bytes share) : Incomplete share.kept := by
  cases h with
  | run _ _ incomplete _ => exact incomplete
  | wait incomplete _ => exact incomplete
  | drop _ _ => exact incomplete_nil

/-- What is kept of incomplete bytes and a piece is part of the piece, unless all of it waits: the
end of a line before what is kept cannot lie in the incomplete bytes. -/
theorem length_kept_le {waiting piece : List UInt8} (h : Settled (waiting ++ piece) share)
    (hwaiting : Incomplete waiting) :
    share.kept.length ≤ maxWaiting ∨ share.kept.length ≤ piece.length := by
  cases h with
  | @run payload rest eq _ _ cut =>
    right
    rcases cut with rfl | ⟨a, rfl⟩
    · exact Nat.zero_le _
    · by_contra hlong
      have hle : (a ++ [cr, lf]).length ≤ waiting.length := by
        have hlength := congrArg List.length eq
        simp only [List.length_append] at hlength hlong ⊢
        simp only [Share.kept] at hlong
        omega
      have hprefix : a ++ [cr, lf] <+: waiting :=
        List.prefix_of_prefix_length_le ⟨rest, eq.symm⟩ (List.prefix_append ..) hle
      obtain ⟨t, ht⟩ := hprefix
      have hunbroken := hwaiting.unbroken
      rw [← ht, List.append_assoc] at hunbroken
      exact not_unbroken_append_ending a t hunbroken
  | wait _ short => exact Or.inl short
  | drop _ _ => exact Or.inl (Nat.zero_le _)

end Settled

/-! ## Streams in which every line feed follows a carriage return -/

/-- Every line feed follows a carriage return. -/
def Carried (bytes : List UInt8) : Prop :=
  ∀ before after, bytes = before ++ lf :: after → before.getLast? = some cr

theorem carried_of_not_mem {bytes : List UInt8} (h : lf ∉ bytes) : Carried bytes := by
  rintro before after rfl
  exact absurd (by simp) h

namespace Carried

theorem left {a b : List UInt8} (h : Carried (a ++ b)) : Carried a := by
  rintro before after rfl
  exact h before (after ++ b) (by simp)

/-- After the end of a line the rest is a stream of its own. -/
theorem rest {a b : List UInt8} (h : Carried (a ++ cr :: lf :: b)) : Carried b := by
  rintro before after rfl
  have hlast := h (a ++ cr :: lf :: before) after (by simp)
  cases before with
  | nil => simp [cr_ne_lf.symm] at hlast
  | cons x before => simpa using hlast

/-- A line without a line feed and its end come before such a stream. -/
theorem ending {a b : List UInt8} (ha : lf ∉ a) (hb : Carried b) :
    Carried (a ++ cr :: lf :: b) := by
  intro before after h
  rcases List.append_eq_append_iff.1 h with ⟨w, rfl, hw⟩ | ⟨w, rfl, hw⟩
  · rcases w with _ | ⟨x, _ | ⟨y, w⟩⟩
    · exact absurd (List.cons.inj hw).1 cr_ne_lf
    · obtain ⟨rfl, -⟩ := List.cons.inj hw
      exact List.getLast?_concat
    · obtain ⟨rfl, hrest⟩ := List.cons.inj hw
      obtain ⟨rfl, rfl⟩ := List.cons.inj hrest
      obtain ⟨t, rfl⟩ := List.getLast?_eq_some_iff.1 (hb w after rfl)
      exact List.getLast?_eq_some_iff.2 ⟨a ++ cr :: lf :: t, by simp⟩
  · rcases w with _ | ⟨x, w⟩
    · exact absurd (List.cons.inj hw).1.symm cr_ne_lf
    · obtain ⟨rfl, -⟩ := List.cons.inj hw
      exact absurd (by simp) ha

/-- The end of a stream is a stream of its own, unless it begins with the line feed of an end of a
line. -/
theorem right {d bytes : List UInt8} (h : Carried (d ++ bytes)) :
    Carried bytes ∨ ∃ a b, d = a ++ [cr] ∧ bytes = lf :: b := by
  cases bytes with
  | nil => exact Or.inl (carried_of_not_mem List.not_mem_nil)
  | cons x b =>
    by_cases hx : x = lf
    · subst hx
      obtain ⟨a, rfl⟩ := List.getLast?_eq_some_iff.mp (h d b rfl)
      exact Or.inr ⟨a, b, rfl, rfl⟩
    · left
      intro before after heq
      cases before with
      | nil => exact absurd (List.cons.inj heq).1 hx
      | cons y before =>
        rw [heq, ← List.append_assoc] at h
        have hlast := h _ after rfl
        rwa [List.getLast?_append_of_ne_nil d (List.cons_ne_nil y before)] at hlast

/-- Two such streams, one behind the other, are one. -/
theorem append {a b : List UInt8} (ha : Carried a) (hb : Carried b) : Carried (a ++ b) := by
  intro before after h
  rcases List.append_eq_append_iff.mp h with ⟨w, rfl, hw⟩ | ⟨w, rfl, hw⟩
  · have hlast := hb w after hw
    have hne : w ≠ [] := fun hnil => by
      rw [hnil] at hlast
      cases hlast
    rw [List.getLast?_append_of_ne_nil a hne]
    exact hlast
  · cases w with
    | nil => exact absurd (hb [] after hw.symm) (by simp)
    | cons x w =>
      obtain ⟨rfl, -⟩ := List.cons.inj hw
      exact ha before w rfl

/-- Where no line ends there is no line feed. -/
theorem not_mem {bytes : List UInt8} (h : Carried bytes) (hu : Unbroken cr lf bytes) :
    lf ∉ bytes := by
  intro hmem
  obtain ⟨before, after, rfl⟩ := List.append_of_mem hmem
  obtain ⟨t, rfl⟩ := List.getLast?_eq_some_iff.1 (h before after rfl)
  rw [List.append_assoc] at hu
  exact not_unbroken_append_ending t after hu

/-- Where no line ends, all waits or is dropped. -/
theorem settle_of_unbroken {bytes : List UInt8} (h : Carried bytes) (hu : Unbroken cr lf bytes) :
    settle bytes = if maxWaiting < bytes.length then .drop bytes else .wait bytes := by
  have hsettled := settled_settle bytes
  generalize settle bytes = share at hsettled
  cases hsettled with
  | @run payload rest eq last _ _ =>
    have hmem : lf ∈ bytes := by
      rw [eq]
      exact List.mem_append_left _ (List.mem_of_getLast? last)
    exact absurd hmem (h.not_mem hu)
  | wait _ short => rw [if_neg (Nat.not_lt.2 short)]
  | drop _ long => rw [if_pos long]

/-- Where a line ends, all up to the last end of a line is run, and the rest waits. -/
theorem settle_of_not_unbroken {bytes : List UInt8} (h : Carried bytes)
    (hu : ¬ Unbroken cr lf bytes) :
    ∃ a b, bytes = a ++ cr :: lf :: b ∧ Unbroken cr lf b ∧
      settle bytes = .run (a ++ [cr, lf]) b := by
  have hsettled := settled_settle bytes
  generalize settle bytes = share at hsettled
  cases hsettled with
  | @run payload rest eq last incomplete cut =>
    obtain ⟨a, rfl⟩ : [cr, lf] <:+ payload := by
      rcases cut with rfl | hcut
      · obtain ⟨before, rfl⟩ := List.getLast?_eq_some_iff.1 last
        rw [List.append_nil] at eq
        obtain ⟨a, rfl⟩ := List.getLast?_eq_some_iff.1 (h before [] eq)
        exact ⟨a, by simp⟩
      · exact hcut
    refine ⟨a, rest, ?_, incomplete.unbroken, rfl⟩
    rw [eq, List.append_assoc]
    rfl
  | wait incomplete _ => exact absurd incomplete.unbroken hu
  | drop incomplete _ => exact absurd incomplete.unbroken hu

end Carried

/-! ## Terminated lines -/

/-- The lines of a stream that are terminated: all but what comes after the last end of a line. -/
def terminatedLines (bytes : List UInt8) : List (List UInt8) := (breakAt cr lf bytes).dropLast

theorem terminatedLines_of_unbroken {bytes : List UInt8} (h : Unbroken cr lf bytes) :
    terminatedLines bytes = [] := by
  rw [terminatedLines, breakAt_of_unbroken h]
  rfl

/-- All that is before the end of a line is terminated. -/
theorem terminatedLines_append_ending (a b : List UInt8) :
    terminatedLines (a ++ cr :: lf :: b) = breakAt cr lf a ++ terminatedLines b := by
  rw [terminatedLines, breakAt_append_ending cr_ne_lf,
    List.dropLast_append_of_ne_nil (breakAt_ne_nil cr_ne_lf b)]
  rfl

/-- Behind whole lines the terminated lines go on. -/
theorem terminatedLines_append {a : List UInt8} (ha : a = [] ∨ [cr, lf] <:+ a) (b : List UInt8) :
    terminatedLines (a ++ b) = terminatedLines a ++ terminatedLines b := by
  rcases ha with rfl | ⟨a, rfl⟩
  · rfl
  · rw [List.append_assoc, terminatedLines_append_ending a [],
      terminatedLines_of_unbroken (unbroken_nil cr lf), List.append_nil]
    exact terminatedLines_append_ending a b

/-- Lines in which no line ends are the terminated lines of what they make with their ends. -/
theorem terminatedLines_flatMap_ending {ls : List (List UInt8)}
    (h : ∀ l ∈ ls, Unbroken cr lf l) : terminatedLines (ls.flatMap (· ++ [cr, lf])) = ls := by
  induction ls with
  | nil => exact terminatedLines_of_unbroken (unbroken_nil cr lf)
  | cons l ls ih =>
    rw [List.forall_mem_cons] at h
    rw [List.flatMap_cons, List.append_assoc, List.cons_append, List.singleton_append,
      terminatedLines_append_ending, breakAt_of_unbroken h.1, ih h.2, List.singleton_append]

/-- Every line feed follows a carriage return, and no terminated line is too long to wait for its
end. -/
structure Framed (bytes : List UInt8) : Prop where
  /-- Every line feed follows a carriage return. -/
  carried : Carried bytes
  /-- Every terminated line is shorter than what may wait. -/
  short : ∀ l ∈ terminatedLines bytes, l.length < maxWaiting

namespace Framed

theorem of_unbroken {bytes : List UInt8} (h : Carried bytes) (hu : Unbroken cr lf bytes) :
    Framed bytes where
  carried := h
  short := by
    rw [terminatedLines_of_unbroken hu]
    exact fun l hl => absurd hl List.not_mem_nil

/-- After the end of a line the rest is a stream of its own. -/
theorem rest {a b : List UInt8} (h : Framed (a ++ cr :: lf :: b)) : Framed b where
  carried := h.carried.rest
  short := by
    intro l hl
    apply h.short
    rw [terminatedLines_append_ending]
    exact List.mem_append_right _ hl

/-- If no line ends in more bytes than may wait, then none ends after them. -/
theorem unbroken_of_long {bytes more : List UInt8} (h : Framed (bytes ++ more))
    (hu : Unbroken cr lf bytes) (hlong : maxWaiting < bytes.length) :
    Unbroken cr lf (bytes ++ more) := by
  intro hbroken
  obtain ⟨a, b, hab, ha⟩ := exists_ending_of_not_unbroken (not_not_intro hbroken)
  have hshort : a.length < maxWaiting := by
    apply h.short
    rw [hab, terminatedLines_append_ending, breakAt_of_unbroken ha]
    exact List.mem_append_left _ (List.mem_singleton_self a)
  have hprefix : a ++ [cr, lf] <+: bytes := by
    have hleft : a ++ [cr, lf] <+: bytes ++ more := by
      rw [hab]
      exact ⟨b, by simp⟩
    refine List.prefix_of_prefix_length_le hleft (List.prefix_append ..) ?_
    rw [List.length_append]
    exact Nat.lt_of_le_of_lt (Nat.succ_le_of_lt hshort) hlong
  obtain ⟨t, rfl⟩ := hprefix
  rw [List.append_assoc] at hu
  exact not_unbroken_append_ending a t hu

end Framed

end Plotter.Framing
