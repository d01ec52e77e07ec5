import Plotter.Proofs.Framing

/-!
# How much is complete

The number of complete bytes, told without the rule by which it is found out. It is the length of a
first part that ends in a line feed and has nothing complete behind it (`CompleteAt`); if anything at
all is behind it, then the first part ends in the end of a line. At most one number is such
(`CompleteAt.unique`): the end of a line in which the longer of two first parts ends would lie behind
the shorter one, or its line feed right behind a line feed.

Behind whole lines everything begins anew: what is complete of all the bytes is the whole lines and
what is complete of those behind them (`completeLength?_append`). So nothing is lost by running what
is complete and looking at the rest together with what arrives later.
-/

namespace Plotter.Framing

open Text

variable {bytes : List UInt8} {m n : Nat}

/-- The first `n` bytes are complete, and no more of them are. -/
structure CompleteAt (bytes : List UInt8) (n : Nat) : Prop where
  pos : 0 < n
  le : n ≤ bytes.length
  /-- What is complete ends in a line feed. -/
  last : (bytes.take n).getLast? = some lf
  /-- Nothing of what is behind it is complete. -/
  incomplete : Incomplete (bytes.drop n)
  /-- If anything is behind it, then it ends in the end of a line. -/
  cut : n < bytes.length → [cr, lf] <:+ bytes.take n

/-! ## The rule -/

/-- A first part that ends in a line feed and has something incomplete behind it is what is
complete. -/
theorem CompleteAt.of_append {payload rest : List UInt8} (hlast : payload.getLast? = some lf)
    (hrest : Incomplete rest) (hcut : rest = [] ∨ [cr, lf] <:+ payload) :
    CompleteAt (payload ++ rest) payload.length where
  pos := List.length_pos_of_mem (List.mem_of_getLast? hlast)
  le := by simp
  last := by rwa [List.take_left]
  incomplete := by rwa [List.drop_left]
  cut := by
    intro hlt
    rw [List.take_left]
    refine hcut.resolve_left ?_
    rintro rfl
    simp at hlt

theorem completeLength?_eq_none_iff : completeLength? bytes = none ↔ Incomplete bytes := by
  constructor
  · intro h
    have hlast : bytes.getLast? ≠ some lf := by
      intro hlast
      rw [completeLength?_of_last hlast] at h
      cases h
    rw [completeLength?_of_not_last hlast] at h
    exact ⟨whole_seen_eq_none_iff.1 h, hlast⟩
  · intro h
    rw [completeLength?_of_not_last h.last]
    exact whole_seen_eq_none_iff.2 h.unbroken

/-- No more bytes are complete than there are. -/
theorem le_of_completeLength? (h : completeLength? bytes = some n) : n ≤ bytes.length := by
  by_cases hlast : bytes.getLast? = some lf
  · rw [completeLength?_of_last hlast] at h
    exact Nat.le_of_eq (Option.some.inj h).symm
  · rw [completeLength?_of_not_last hlast] at h
    obtain ⟨a, b, rfl, rfl, -⟩ := eq_of_whole_seen h
    simp only [List.length_append, List.length_cons]
    omega

theorem completeAt_of_completeLength? (h : completeLength? bytes = some n) :
    CompleteAt bytes n := by
  have hsettled := settled_settle bytes
  rw [settle, h] at hsettled
  cases hsettled with
  | run _ last incomplete cut =>
    refine ⟨Nat.pos_of_ne_zero ?_, le_of_completeLength? h, last, incomplete, fun hlt => ?_⟩
    · rintro rfl
      simp at last
    · refine cut.resolve_left fun hnil => ?_
      exact absurd (List.drop_eq_nil_iff.1 hnil) (Nat.not_le.2 hlt)

/-! ## There is one such number -/

/-- Of two first parts the shorter one cannot be complete: the longer one would end behind it in a
line feed alone, and nothing but the last byte of all may do so. -/
theorem CompleteAt.not_lt (hm : CompleteAt bytes m) (hn : CompleteAt bytes n) : ¬ m < n := by
  intro hlt
  have hsplit : bytes.take n = bytes.take m ++ (bytes.drop m).take (n - m) := by
    rw [← List.take_add, Nat.add_sub_cancel' (Nat.le_of_lt hlt)]
  have hbehind : (bytes.drop m).take (n - m) ≠ [] := by
    rw [Ne, List.take_eq_nil_iff, List.drop_eq_nil_iff]
    have := hn.le
    omega
  have hlast := hn.last
  rw [hsplit, List.getLast?_append_of_ne_nil _ hbehind] at hlast
  rcases Nat.lt_or_eq_of_le hn.le with hshort | rfl
  · have hcut := hn.cut hshort
    obtain ⟨w, hw⟩ := List.getLast?_eq_some_iff.1 hlast
    rw [hsplit, hw, ← List.append_assoc, ending_suffix_concat_iff] at hcut
    obtain ⟨-, hcr⟩ := hcut
    -- The carriage return is the last byte of the shorter part, or the end of a line is behind it.
    rcases List.eq_nil_or_concat w with rfl | ⟨v, x, rfl⟩
    · rw [List.append_nil, hm.last] at hcr
      exact cr_ne_lf (Option.some.inj hcr).symm
    · have hx : x = cr := by simpa using hcr
      have hending : [cr, lf] <:+: bytes.drop m := by
        refine List.IsInfix.trans ⟨v, [], ?_⟩ (List.take_prefix (n - m) _).isInfix
        rw [hw, hx]
        simp
      exact hm.incomplete.unbroken hending
  · apply hm.incomplete.last
    rwa [← List.length_drop, List.take_length] at hlast

/-- At most one number of bytes is complete. -/
theorem CompleteAt.unique (hm : CompleteAt bytes m) (hn : CompleteAt bytes n) : m = n :=
  Nat.le_antisymm (Nat.le_of_not_lt (hn.not_lt hm)) (Nat.le_of_not_lt (hm.not_lt hn))

theorem completeLength?_eq_some_iff : completeLength? bytes = some n ↔ CompleteAt bytes n := by
  refine ⟨completeAt_of_completeLength?, fun hn => ?_⟩
  cases h : completeLength? bytes with
  | some m => rw [(completeAt_of_completeLength? h).unique hn]
  | none =>
    -- A first part that ends in a line feed is all, or has the end of a line in it.
    exfalso
    have hnone := completeLength?_eq_none_iff.1 h
    rcases Nat.lt_or_eq_of_le hn.le with hshort | rfl
    · exact hnone.unbroken ((hn.cut hshort).isInfix.trans (List.take_prefix n bytes).isInfix)
    · apply hnone.last
      simpa using hn.last

/-! ## Behind whole lines -/

/-- What is complete of bytes behind whole lines is complete of all, together with these lines. -/
theorem completeLength?_append {whole : List UInt8} (h : [cr, lf] <:+ whole) (rest : List UInt8) :
    completeLength? (whole ++ rest) = some (whole.length + (completeLength? rest).getD 0) := by
  have hlast : whole.getLast? = some lf := by
    obtain ⟨a, rfl⟩ := h
    simp
  rw [completeLength?_eq_some_iff]
  cases hrest : completeLength? rest with
  | none => exact .of_append hlast (completeLength?_eq_none_iff.1 hrest) (Or.inr h)
  | some k =>
    have hk := completeAt_of_completeLength? hrest
    have hne : rest.take k ≠ [] := by
      intro hnil
      have := hk.last
      simp [hnil] at this
    have hcut : rest.drop k = [] ∨ [cr, lf] <:+ whole ++ rest.take k := by
      rcases Nat.lt_or_eq_of_le hk.le with hshort | rfl
      · exact Or.inr ((hk.cut hshort).trans (List.suffix_append ..))
      · exact Or.inl List.drop_length
    have hlength : (whole ++ rest.take k).length = whole.length + k := by
      rw [List.length_append, List.length_take, Nat.min_eq_left hk.le]
    have hall : CompleteAt ((whole ++ rest.take k) ++ rest.drop k) (whole ++ rest.take k).length :=
      .of_append (by rw [List.getLast?_append_of_ne_nil _ hne, hk.last]) hk.incomplete hcut
    rwa [List.append_assoc, List.take_append_drop, hlength] at hall

/-- In a stream in which every line feed follows a carriage return, what is complete of a first part
of it is made of whole lines. -/
theorem CompleteAt.ending {more : List UInt8} (hn : CompleteAt bytes n)
    (h : Carried (bytes ++ more)) : [cr, lf] <:+ bytes.take n := by
  obtain ⟨a, ha⟩ := List.getLast?_eq_some_iff.1 hn.last
  rw [ha, ending_suffix_concat_iff]
  have hbytes : bytes = a ++ lf :: bytes.drop n :=
    calc
      bytes = bytes.take n ++ bytes.drop n := (List.take_append_drop n bytes).symm
      _ = a ++ lf :: bytes.drop n := by rw [ha, List.append_assoc, List.singleton_append]
  refine ⟨rfl, h a (bytes.drop n ++ more) ?_⟩
  rw [← List.cons_append, ← List.append_assoc, ← hbytes]

/-- **How much is complete.** For all bytes: nothing is complete exactly if the bytes neither end in
a line feed nor have the end of a line in them; `n` of them are complete exactly if there is at least
one among the first `n`, these end in a line feed, what is behind them neither ends in one nor has the
end of a line in it, and they end in the end of a line if anything is behind them; and at most one
number is such.

If in these bytes and more that arrive later every line feed follows a carriage return, then at
least as many bytes are complete when more have arrived. What is complete of the bytes that were
left over, together with those that have arrived, is the difference, or nothing if there is none. -/
theorem completeLength?_exact (bytes : List UInt8) :
    (completeLength? bytes = none ↔ Incomplete bytes) ∧
    (∀ n, completeLength? bytes = some n ↔ CompleteAt bytes n) ∧
    (∀ m n, CompleteAt bytes m → CompleteAt bytes n → m = n) ∧
    ∀ more n, Carried (bytes ++ more) → completeLength? bytes = some n →
      ∃ m, n ≤ m ∧ completeLength? (bytes ++ more) = some m ∧
        completeLength? (bytes.drop n ++ more) = if m = n then none else some (m - n) := by
  refine ⟨completeLength?_eq_none_iff, fun n => completeLength?_eq_some_iff,
    fun m n => CompleteAt.unique, fun more n hcarried hn => ?_⟩
  have hcomplete := completeAt_of_completeLength? hn
  have hwhole := hcomplete.ending hcarried
  have hlength : (bytes.take n).length = n := by
    rw [List.length_take, Nat.min_eq_left hcomplete.le]
  have hall := completeLength?_append hwhole (bytes.drop n ++ more)
  rw [← List.append_assoc, List.take_append_drop, hlength] at hall
  refine ⟨_, Nat.le_add_right _ _, hall, ?_⟩
  cases hrest : completeLength? (bytes.drop n ++ more) with
  | none => simp
  | some k =>
    have hpos := (completeAt_of_completeLength? hrest).pos
    rw [Option.getD_some, if_neg (by omega), Nat.add_sub_cancel_left]

/-- The bytes that have arrived end within the end of a line: of `a`, an ending, `b` and a carriage
return three bytes are complete, and with a line feed and `c` behind them six. -/
theorem completeLength?_exact_cut_within_ending :
    let bytes : List UInt8 := [0x61, cr, lf, 0x62, cr]
    let more : List UInt8 := [lf, 0x63]
    Carried (bytes ++ more) ∧ completeLength? bytes = some 3 ∧
      CompleteAt bytes 3 ∧ completeLength? (bytes ++ more) = some 6 ∧
      completeLength? (bytes.drop 3 ++ more) = some 3 := by
  intro bytes more
  have hcarried : Carried (bytes ++ more) := by
    refine Carried.ending (a := [0x61]) (b := [0x62, cr, lf, 0x63]) (by decide) ?_
    exact Carried.ending (a := [0x62]) (b := [0x63]) (by decide) (carried_of_not_mem (by decide))
  have hthree : completeLength? bytes = some 3 := by decide
  have hsix : completeLength? (bytes ++ more) = some 6 := by decide
  obtain ⟨-, -, -, hmore⟩ := completeLength?_exact bytes
  obtain ⟨m, -, hm, hrest⟩ := hmore more 3 hcarried hthree
  obtain rfl : m = 6 := Option.some.inj (hm.symm.trans hsix)
  exact ⟨hcarried, hthree, completeAt_of_completeLength? hthree, hsix, hrest⟩

end Plotter.Framing
