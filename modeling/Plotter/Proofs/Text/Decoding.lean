import Mathlib.Algebra.Group.Nat.Defs
import Mathlib.Data.List.Induction
import Plotter.Framing
import Plotter.Proofs.Text.Breaking
import Plotter.Session

/-!
# Decoding and lines

Bytes are decoded before they are broken into lines. This file shows that it makes no difference:
the lines of the decoded text are the lines of the bytes, each decoded on its own
(`payloadLines_eq_map_lenient`), however ill-formed the bytes are.

An ASCII byte ends whatever character was begun before it and is a character of its own
(`Utf8.decode_append_ascii`). All other bytes together give no ASCII character
(`Utf8.le_toNat_of_mem_decode`): the code point of a character of several bytes lies beyond them, which
is what the bounds of its bytes are for (`Utf8.Begun.Sound`). So the ASCII characters of the decoded
text are the ASCII bytes, and divide text and bytes alike (`Utf8.exists_of_lenient_eq_append`).
-/

namespace Plotter.Text.Utf8

/-! ## Characters of several bytes -/

namespace Begun

/-- The least code point that a character begun can come to. -/
def least (g : Begun) : Nat := (g.bits * 64 + (g.low.toNat - 0x80)) * 64 ^ g.owed

/-- The first code point beyond those that a character begun can come to. -/
def bound (g : Begun) : Nat := (g.bits * 64 + (g.high.toNat - 0x80) + 1) * 64 ^ g.owed

/-- The bytes that may follow are no ASCII bytes, and the code points that a character can come to
exist and lie beyond ASCII. -/
structure Sound (g : Begun) : Prop where
  /-- The next byte is no ASCII byte. -/
  low : 0x80 ≤ g.low.toNat
  /-- No more than two bytes are owed after the next one. -/
  owed : g.owed ≤ 2
  /-- The code points lie on one side of the surrogates. -/
  range : 0x80 ≤ g.least ∧ g.bound ≤ 0xD800 ∨ 0xE000 ≤ g.least ∧ g.bound ≤ 0x110000

/-- Where every byte that is not the first of a character may follow, the code points are those with
the bits read so far. -/
theorem sound_of_bits {bits n : Nat} (hn : n ≤ 2)
    (h : 0x80 ≤ bits * 64 ^ (n + 1) ∧ (bits + 1) * 64 ^ (n + 1) ≤ 0xD800 ∨
      0xE000 ≤ bits * 64 ^ (n + 1) ∧ (bits + 1) * 64 ^ (n + 1) ≤ 0x110000) :
    Sound ⟨bits, n, 0x80, 0xBF⟩ := by
  have hleast : least ⟨bits, n, 0x80, 0xBF⟩ = bits * 64 ^ (n + 1) := by
    simp [least, Nat.pow_succ', Nat.mul_assoc]
  have hbound : bound ⟨bits, n, 0x80, 0xBF⟩ = (bits + 1) * 64 ^ (n + 1) := by
    have hbits : bits * 64 + 63 + 1 = (bits + 1) * 64 := by omega
    simp [bound, Nat.pow_succ', ← Nat.mul_assoc, hbits]
  refine ⟨Nat.le_refl _, hn, ?_⟩
  rw [hleast, hbound]
  exact h

end Begun

/-- Only an ASCII byte is a character of its own. -/
theorem lt_of_first_eq_whole {b : UInt8} {c : Char} (h : first b = .whole c) : b < 0x80 := by
  by_contra hb
  rw [first, if_neg hb] at h
  repeat' split at h
  all_goals cases h

/-- What a first byte begins is sound. -/
theorem sound_of_first {b : UInt8} {g : Begun} (h : first b = .begun g) : g.Sound := by
  have toNat_ne {n : UInt8} (hn : ¬ b = n) : b.toNat ≠ n.toNat := mt UInt8.toNat_inj.1 hn
  -- one case for each row of the table, in its order; each excludes the rows before it
  unfold first at h
  by_cases h80 : b < 0x80
  · rw [if_pos h80] at h
    cases h
  rw [if_neg h80] at h
  by_cases hC2 : b < 0xC2
  · rw [if_pos hC2] at h
    cases h
  rw [if_neg hC2] at h
  by_cases hE0 : b < 0xE0
  · rw [if_pos hE0] at h
    obtain rfl := First.begun.inj h
    have hlow : ¬ b.toNat < 0xC2 := hC2
    have hhigh : b.toNat < 0xE0 := hE0
    exact Begun.sound_of_bits (by decide) (by omega)
  rw [if_neg hE0] at h
  by_cases hE0' : b = 0xE0
  · rw [if_pos hE0'] at h
    obtain rfl := First.begun.inj h
    exact ⟨by decide, by decide, by decide⟩
  rw [if_neg hE0'] at h
  by_cases hED : b = 0xED
  · rw [if_pos hED] at h
    obtain rfl := First.begun.inj h
    exact ⟨by decide, by decide, by decide⟩
  rw [if_neg hED] at h
  by_cases hF0 : b < 0xF0
  · rw [if_pos hF0] at h
    obtain rfl := First.begun.inj h
    have hlow : ¬ b.toNat < 0xE0 := hE0
    have hlow' : b.toNat ≠ 0xE0 := toNat_ne hE0'
    -- the surrogates are what `0xED` would begin
    have hgap : b.toNat ≠ 0xED := toNat_ne hED
    have hhigh : b.toNat < 0xF0 := hF0
    exact Begun.sound_of_bits (by decide) (by omega)
  rw [if_neg hF0] at h
  by_cases hF0' : b = 0xF0
  · rw [if_pos hF0'] at h
    obtain rfl := First.begun.inj h
    exact ⟨by decide, by decide, by decide⟩
  rw [if_neg hF0'] at h
  by_cases hF4 : b < 0xF4
  · rw [if_pos hF4] at h
    obtain rfl := First.begun.inj h
    have hlow : ¬ b.toNat < 0xF0 := hF0
    have hlow' : b.toNat ≠ 0xF0 := toNat_ne hF0'
    have hhigh : b.toNat < 0xF4 := hF4
    exact Begun.sound_of_bits (by decide) (by omega)
  rw [if_neg hF4] at h
  by_cases hF4' : b = 0xF4
  · rw [if_pos hF4'] at h
    obtain rfl := First.begun.inj h
    exact ⟨by decide, by decide, by decide⟩
  · rw [if_neg hF4'] at h
    cases h

namespace Begun

/-- One more byte leaves fewer code points, so what has been begun stays sound. -/
theorem Sound.next {g : Begun} (h : g.Sound) {b : UInt8} (hlow : g.low ≤ b) (hhigh : b ≤ g.high)
    {n : Nat} (hn : g.owed = n + 1) :
    Sound ⟨g.bits * 64 + (b.toNat - 0x80), n, 0x80, 0xBF⟩ := by
  have hl : g.low.toNat ≤ b.toNat := hlow
  have hh : b.toNat ≤ g.high.toNat := hhigh
  have howed := h.owed
  have hleast : g.least ≤ (g.bits * 64 + (b.toNat - 0x80)) * 64 ^ (n + 1) := by
    rw [least, hn]
    exact Nat.mul_le_mul_right _ (by omega)
  have hbound : (g.bits * 64 + (b.toNat - 0x80) + 1) * 64 ^ (n + 1) ≤ g.bound := by
    rw [bound, hn]
    exact Nat.mul_le_mul_right _ (by omega)
  refine sound_of_bits (by omega) ?_
  rcases h.range with ⟨hlo, hhi⟩ | ⟨hlo, hhi⟩
  · exact Or.inl ⟨Nat.le_trans hlo hleast, Nat.le_trans hbound hhi⟩
  · exact Or.inr ⟨Nat.le_trans hlo hleast, Nat.le_trans hbound hhi⟩

/-- The last byte makes a character beyond ASCII. -/
theorem Sound.le_toNat {g : Begun} (h : g.Sound) {b : UInt8} (hlow : g.low ≤ b)
    (hhigh : b ≤ g.high) (hn : g.owed = 0) :
    0x80 ≤ (Char.ofNat (g.bits * 64 + (b.toNat - 0x80))).toNat := by
  have hl : g.low.toNat ≤ b.toNat := hlow
  have hh : b.toNat ≤ g.high.toNat := hhigh
  have hrange := h.range
  rw [least, bound, hn] at hrange
  have hvalid : (g.bits * 64 + (b.toNat - 0x80)).isValidChar := by
    unfold Nat.isValidChar
    omega
  have htoNat : (Char.ofNat (g.bits * 64 + (b.toNat - 0x80))).toNat =
      g.bits * 64 + (b.toNat - 0x80) := by
    rw [Char.ofNat, dif_pos hvalid]
    rfl
  rw [htoNat]
  omega

end Begun

/-! ## The machine -/

namespace Progress

/-- The progress, with more characters and reports before it. -/
def behind (p : Progress) (before : List (Option Char)) : Progress := ⟨p.begun, p.done ++ before⟩

theorem start_behind (done before : List (Option Char)) (b : UInt8) :
    start (done ++ before) b = (start done b).behind before := by
  unfold start
  split <;> rfl

theorem next_behind (p : Progress) (before : List (Option Char)) (b : UInt8) :
    (p.behind before).next b = (p.next b).behind before := by
  rcases p with ⟨_ | g, done⟩
  · exact start_behind done before b
  · simp only [next, behind]
    split
    · split <;> rfl
    · exact start_behind (none :: done) before b

/-- What is before stays in front. -/
theorem foldl_next_behind (bytes : List UInt8) (p : Progress) (before : List (Option Char)) :
    bytes.foldl next (p.behind before) = (bytes.foldl next p).behind before := by
  induction bytes generalizing p with
  | nil => rfl
  | cons b bytes ih => rw [List.foldl_cons, next_behind, ih, List.foldl_cons]

theorem finish_behind (p : Progress) (before : List (Option Char)) :
    (p.behind before).finish = before.reverse ++ p.finish := by
  rcases p with ⟨_ | g, done⟩
  · exact List.reverse_append
  · show ((none :: done) ++ before).reverse = before.reverse ++ (none :: done).reverse
    exact List.reverse_append

/-- What has been begun is sound. -/
def Sound (p : Progress) : Prop := ∀ g, p.begun = some g → g.Sound

theorem sound_start (done : List (Option Char)) (b : UInt8) : (start done b).Sound := by
  intro g hg
  unfold start at hg
  split at hg
  · cases hg
  · next hb => exact Option.some.inj hg ▸ sound_of_first hb
  · cases hg

theorem Sound.next {p : Progress} (h : p.Sound) (b : UInt8) : (p.next b).Sound := by
  rcases p with ⟨_ | g, done⟩
  · exact sound_start done b
  · unfold Progress.next
    dsimp only
    split
    · next hb =>
      split
      · intro g' hg'
        cases hg'
      · next n hn =>
        intro g' hg'
        exact Option.some.inj hg' ▸ (h g rfl).next hb.1 hb.2 hn
    · exact sound_start _ b

theorem Sound.foldl_next {p : Progress} (h : p.Sound) (bytes : List UInt8) :
    (bytes.foldl Progress.next p).Sound := by
  induction bytes generalizing p with
  | nil => exact h
  | cons b bytes ih => exact ih (h.next b)

/-- Between characters nothing has been begun. -/
theorem sound_between (done : List (Option Char)) : Sound ⟨none, done⟩ := fun _ hg => nomatch hg

/-- An ASCII byte ends what has been begun and is a character of its own. -/
theorem next_ascii {p : Progress} (h : p.Sound) {x : UInt8} (hx : x < 0x80) :
    p.next x = behind ⟨none, []⟩ (some (Char.ofNat x.toNat) :: p.finish.reverse) := by
  have hfirst : first x = .whole (Char.ofNat x.toNat) := if_pos hx
  rcases p with ⟨_ | g, done⟩
  · simp [next, start, hfirst, behind, finish]
  · have hlow : ¬ (g.low ≤ x ∧ x ≤ g.high) := by
      rintro ⟨hle, -⟩
      have hg := (h g rfl).low
      have hle' : g.low.toNat ≤ x.toNat := hle
      have hx' : x.toNat < 0x80 := hx
      omega
    simp [next, hlow, start, hfirst, behind, finish]

/-- All characters lie beyond ASCII. -/
def Beyond (done : List (Option Char)) : Prop := ∀ c, some c ∈ done → 0x80 ≤ c.toNat

theorem beyond_nil : Beyond [] := fun _ hc => absurd hc List.not_mem_nil

theorem Beyond.report {done : List (Option Char)} (h : Beyond done) : Beyond (none :: done) := by
  intro c hc
  rcases List.mem_cons.1 hc with hc | hc
  · cases hc
  · exact h c hc

theorem Beyond.character {done : List (Option Char)} (h : Beyond done) {c : Char}
    (hc : 0x80 ≤ c.toNat) : Beyond (some c :: done) := by
  intro d hd
  rcases List.mem_cons.1 hd with hd | hd
  · rw [Option.some.inj hd]
    exact hc
  · exact h d hd

theorem Beyond.start {done : List (Option Char)} (h : Beyond done) {b : UInt8} (hb : ¬ b < 0x80) :
    Beyond (start done b).done := by
  unfold Progress.start
  split
  · next c hc => exact absurd (lt_of_first_eq_whole hc) hb
  · exact h
  · exact h.report

/-- A byte beyond ASCII gives no ASCII character. -/
theorem Sound.beyond_next {p : Progress} (hp : p.Sound) (h : Beyond p.done) {b : UInt8}
    (hb : ¬ b < 0x80) : Beyond (p.next b).done := by
  rcases p with ⟨_ | g, done⟩
  · exact h.start hb
  · unfold Progress.next
    dsimp only
    split
    · next hg =>
      split
      · next hn => exact h.character ((hp g rfl).le_toNat hg.1 hg.2 hn)
      · exact h
    · exact h.report.start hb

theorem Sound.beyond_foldl_next {p : Progress} (hp : p.Sound) (h : Beyond p.done)
    {bytes : List UInt8} (hbytes : ∀ b ∈ bytes, ¬ b < 0x80) :
    Beyond (bytes.foldl Progress.next p).done := by
  induction bytes generalizing p with
  | nil => exact h
  | cons b bytes ih =>
    have hb := hp.beyond_next h (hbytes b List.mem_cons_self)
    exact ih (hp.next b) hb fun y hy => hbytes y (List.mem_cons_of_mem _ hy)

/-- After a byte something has been begun or done. -/
theorem finish_next_ne_nil (p : Progress) (b : UInt8) : (p.next b).finish ≠ [] := by
  have hstart : ∀ done, (start done b).finish ≠ [] := by
    intro done
    unfold start
    split <;> simp [finish]
  rcases p with ⟨_ | g, done⟩
  · exact hstart done
  · unfold next
    dsimp only
    split
    · split <;> simp [finish]
    · exact hstart _

end Progress

/-! ## Decoding -/

/-- Some bytes give some characters or reports. -/
theorem decode_eq_nil_iff {bytes : List UInt8} : decode bytes = [] ↔ bytes = [] := by
  constructor
  · intro h
    induction bytes using List.reverseRecOn with
    | nil => rfl
    | append_singleton bytes b _ =>
      rw [decode, List.foldl_append] at h
      exact absurd h (Progress.finish_next_ne_nil _ b)
  · rintro rfl
    rfl

/-- An ASCII byte divides what is decoded, however ill-formed the bytes before it are. -/
theorem decode_append_ascii (a b : List UInt8) {x : UInt8} (hx : x < 0x80) :
    decode (a ++ x :: b) = decode a ++ some (Char.ofNat x.toNat) :: decode b := by
  have ha := (Progress.sound_between []).foldl_next a
  rw [decode, List.foldl_append, List.foldl_cons, Progress.next_ascii ha hx,
    Progress.foldl_next_behind, Progress.finish_behind]
  simp [decode]

/-- Bytes beyond ASCII give no ASCII character. -/
theorem le_toNat_of_mem_decode {bytes : List UInt8} (h : ∀ b ∈ bytes, ¬ b < 0x80) {c : Char}
    (hc : some c ∈ decode bytes) : 0x80 ≤ c.toNat := by
  have hbeyond := (Progress.sound_between []).beyond_foldl_next Progress.beyond_nil h
  rw [decode, Progress.finish] at hc
  split at hc
  · exact hbeyond c (List.mem_reverse.1 hc)
  · exact hbeyond.report c (List.mem_reverse.1 hc)

/-! ## The lenient reading -/

theorem lenient_eq_nil_iff {bytes : List UInt8} : lenient bytes = [] ↔ bytes = [] := by
  rw [lenient, List.map_eq_nil_iff, decode_eq_nil_iff]

theorem lenient_append_ascii (a b : List UInt8) {x : UInt8} (hx : x < 0x80) :
    lenient (a ++ x :: b) = lenient a ++ Char.ofNat x.toNat :: lenient b := by
  rw [lenient, decode_append_ascii a b hx, List.map_append, List.map_cons]
  rfl

theorem lenient_replicate_ascii {x : UInt8} (hx : x < 0x80) (n : Nat) :
    lenient (List.replicate n x) = List.replicate n (Char.ofNat x.toNat) := by
  induction n with
  | zero => rfl
  | succ n ih =>
    rw [List.replicate_succ, List.replicate_succ, ← ih]
    exact lenient_append_ascii [] _ hx

theorem le_toNat_of_mem_lenient {bytes : List UInt8} (h : ∀ b ∈ bytes, ¬ b < 0x80) {c : Char}
    (hc : c ∈ lenient bytes) : 0x80 ≤ c.toNat := by
  obtain ⟨d, hd, rfl⟩ := List.mem_map.1 hc
  cases d with
  | none => decide
  | some d => exact le_toNat_of_mem_decode h hd

/-- Bytes lie beyond ASCII, or are divided by the first of them that does not. -/
theorem ascii_induction {P : List UInt8 → Prop} (beyond : ∀ s, (∀ b ∈ s, ¬ b < 0x80) → P s)
    (ascii : ∀ a x b, (∀ y ∈ a, ¬ y < 0x80) → x < 0x80 → P b → P (a ++ x :: b))
    (s : List UInt8) : P s := by
  suffices h : ∀ a, (∀ y ∈ a, ¬ y < 0x80) → P (a ++ s) from h [] (by simp)
  induction s with
  | nil =>
    intro a ha
    rw [List.append_nil]
    exact beyond a ha
  | cons x s ih =>
    intro a ha
    by_cases hx : x < 0x80
    · exact ascii a x s ha hx (ih [] (by simp))
    · rw [List.append_cons]
      apply ih
      intro y hy
      rcases List.mem_append.1 hy with hy | hy
      · exact ha y hy
      · rw [List.mem_singleton.1 hy]
        exact hx

/-- The code point of an ASCII byte is its value. -/
theorem toNat_ofNat_of_ascii {x : UInt8} (hx : x < 0x80) : (Char.ofNat x.toNat).toNat = x.toNat := by
  have hlt : x.toNat < 0x80 := hx
  have hvalid : x.toNat.isValidChar := Or.inl (by omega)
  rw [Char.ofNat, dif_pos hvalid]
  rfl

/-- An ASCII character of the text is an ASCII byte, which divides text and bytes alike. -/
theorem exists_of_lenient_eq_append {bytes : List UInt8} {u v : List Char} {c : Char}
    (hc : c.toNat < 0x80) (h : lenient bytes = u ++ c :: v) :
    ∃ a x b, bytes = a ++ x :: b ∧ x.toNat = c.toNat ∧ lenient a = u ∧ lenient b = v := by
  have hbeyond : ∀ a : List UInt8, (∀ y ∈ a, ¬ y < 0x80) → c ∉ lenient a := by
    intro a ha hmem
    have := le_toNat_of_mem_lenient ha hmem
    omega
  induction bytes using ascii_induction generalizing u with
  | beyond s hs => exact absurd (h ▸ by simp) (hbeyond s hs)
  | ascii a x b ha hx ih =>
    have hx' := toNat_ofNat_of_ascii hx
    rw [lenient_append_ascii a b hx] at h
    rcases List.append_eq_append_iff.1 h with ⟨w, rfl, hw⟩ | ⟨w, hu, hw⟩
    · cases w with
      | nil =>
        obtain ⟨rfl, rfl⟩ := List.cons.inj hw
        exact ⟨a, x, b, rfl, hx'.symm, by simp, rfl⟩
      | cons y w =>
        obtain ⟨rfl, hb⟩ := List.cons.inj hw
        obtain ⟨a', x', b', rfl, hx'', rfl, rfl⟩ := ih hb
        exact ⟨a ++ x :: a', x', b', by simp, hx'', lenient_append_ascii a a' hx, rfl⟩
    · cases w with
      | nil =>
        obtain ⟨rfl, rfl⟩ := List.cons.inj hw
        exact ⟨a, x, b, rfl, hx'.symm, by simpa using hu, rfl⟩
      | cons y w =>
        obtain ⟨rfl, -⟩ := List.cons.inj hw
        exact absurd (hu ▸ by simp) (hbeyond a ha)

/-! ## Lines -/

open Framing (cr lf)

/-- The end of a line is read as the end of a line. -/
theorem lenient_append_ending (a b : List UInt8) :
    lenient (a ++ cr :: lf :: b) = lenient a ++ '\r' :: '\n' :: lenient b := by
  rw [lenient_append_ascii a (lf :: b) (by decide)]
  exact congrArg (lenient a ++ '\r' :: ·) (lenient_append_ascii [] b (by decide))

/-- No end of a line is read into bytes that have none. -/
theorem unbroken_lenient {bytes : List UInt8} (h : Unbroken cr lf bytes) :
    Unbroken '\r' '\n' (lenient bytes) := by
  rintro ⟨u, v, huv⟩
  have hcr : lenient bytes = u ++ '\r' :: '\n' :: v := by simpa using huv.symm
  obtain ⟨a, x, b, rfl, hx, -, hb⟩ := exists_of_lenient_eq_append (by decide) hcr
  obtain ⟨a', y, b', rfl, hy, ha', -⟩ := exists_of_lenient_eq_append (u := []) (by decide) hb
  obtain rfl : x = cr := UInt8.toNat_inj.1 hx
  obtain rfl : y = lf := UInt8.toNat_inj.1 hy
  obtain rfl := lenient_eq_nil_iff.1 ha'
  exact not_unbroken_append_ending a b' h

end Plotter.Text.Utf8

namespace Plotter

open Text Framing

/-- **Decoding and breaking into lines commute.** The lines of a payload are the lines of its bytes,
each decoded on its own. -/
theorem payloadLines_eq_map_lenient (payload : List UInt8) :
    payloadLines payload = (breakAt cr lf payload).map Utf8.lenient := by
  induction payload using ending_induction cr lf with
  | unbroken s hs =>
    rw [payloadLines, lines, breakAt_of_unbroken (Utf8.unbroken_lenient hs), breakAt_of_unbroken hs]
    rfl
  | ending a b ha ih =>
    rw [payloadLines, lines, Utf8.lenient_append_ending,
      breakAt_cons_of_unbroken (by decide) (Utf8.unbroken_lenient ha),
      breakAt_cons_of_unbroken (by decide) ha, List.map_cons, ← ih]
    rfl

end Plotter
