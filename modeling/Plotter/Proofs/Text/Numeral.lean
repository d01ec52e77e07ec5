import Mathlib.Data.Nat.Digits.Defs
import Plotter.Text.Numeral

/-!
# What numerals denote

Which texts are numerals and which integers they denote is said without reading them from left to
right (`Denotes`): behind at most one sign stand one or more digits of ASCII, and their value is
that of a number written to base ten. Reading finds exactly this (`integer?_eq_some_iff`), however
many digits there are and however many of them are leading noughts. The decimal form of an integer
denotes that integer (`denotes_decimalInt`).
-/

namespace Plotter.Text

/-! ## Digits -/

/-- The value of a digit. -/
def digitValue (c : Char) : Nat := c.toNat - '0'.toNat

/-- The value of digits, the first of which counts most. -/
def digitsValue (ds : List Char) : Nat := Nat.ofDigits 10 (ds.map digitValue).reverse

@[simp] theorem digitsValue_nil : digitsValue [] = 0 := rfl

theorem digitsValue_cons (c : Char) (ds : List Char) :
    digitsValue (c :: ds) = 10 ^ ds.length * digitValue c + digitsValue ds := by
  unfold digitsValue
  rw [List.map_cons, List.reverse_cons, Nat.ofDigits_append, Nat.ofDigits_singleton,
    List.length_reverse, List.length_map, Nat.add_comm]

theorem digitsValue_append_singleton (ds : List Char) (c : Char) :
    digitsValue (ds ++ [c]) = digitValue c + 10 * digitsValue ds := by
  unfold digitsValue
  rw [List.map_append, List.map_singleton, List.reverse_append, List.reverse_singleton,
    List.singleton_append, Nat.ofDigits_cons]

theorem digit?_eq_some_iff {c : Char} {d : Nat} :
    digit? c = some d ↔ c.isDigit = true ∧ digitValue c = d := by
  have hdigit : c.isDigit = true ↔ '0' ≤ c ∧ c ≤ '9' := by
    rw [Char.isDigit, Bool.and_eq_true, decide_eq_true_iff, decide_eq_true_iff]
    exact Iff.rfl
  unfold digit?
  rw [hdigit]
  split
  · next h => rw [Option.some.injEq, and_iff_right h, digitValue]
  · next h => simp only [h, false_and, reduceCtorEq]

/-- Further digits move those read so far to the left. -/
theorem digitsAfter?_eq_some_iff {value n : Nat} {s : List Char} :
    digitsAfter? value s = some n ↔
      (∀ c ∈ s, c.isDigit = true) ∧ 10 ^ s.length * value + digitsValue s = n := by
  induction s generalizing value with
  | nil => simp [digitsAfter?]
  | cons c s ih =>
    unfold digitsAfter?
    rw [List.forall_mem_cons]
    split
    · next d hd =>
      obtain ⟨hc, rfl⟩ := digit?_eq_some_iff.mp hd
      rw [ih, and_iff_right hc, digitsValue_cons, List.length_cons, pow_succ]
      have hmove : 10 ^ s.length * (10 * value + digitValue c) + digitsValue s =
          10 ^ s.length * 10 * value + (10 ^ s.length * digitValue c + digitsValue s) := by ring
      rw [hmove]
    · next hd =>
      have hc : c.isDigit ≠ true := fun hc => by
        rw [digit?_eq_some_iff.mpr ⟨hc, rfl⟩] at hd
        exact absurd hd (Option.some_ne_none _)
      simp only [hc, false_and, reduceCtorEq]

/-- A text consists of digits of ASCII and is not empty. -/
def AreDigits (ds : List Char) : Prop := ds ≠ [] ∧ ∀ c ∈ ds, c.isDigit = true

theorem digits?_eq_some_iff {s : List Char} {n : Nat} :
    digits? s = some n ↔ AreDigits s ∧ digitsValue s = n := by
  unfold digits? AreDigits
  split
  · simp
  · next hne =>
    rw [digitsAfter?_eq_some_iff, Nat.mul_zero, Nat.zero_add, and_iff_right hne]

/-! ## Numerals -/

/-- A text is a numeral and denotes an integer: it consists of one or more digits, in front of which
there may be one sign. -/
inductive Denotes : List Char → Int → Prop
  | unsigned {ds : List Char} (hds : AreDigits ds) : Denotes ds (digitsValue ds)
  | plus {ds : List Char} (hds : AreDigits ds) : Denotes ('+' :: ds) (digitsValue ds)
  | minus {ds : List Char} (hds : AreDigits ds) : Denotes ('-' :: ds) (-digitsValue ds)

theorem AreDigits.ne_cons {ds s : List Char} (h : AreDigits ds) {c : Char}
    (hc : c.isDigit = false) : ds ≠ c :: s := by
  rintro rfl
  rw [h.2 c List.mem_cons_self] at hc
  cases hc

/-- **Numerals are read exactly.** A text is read as an integer exactly if it is a numeral that
denotes the integer. -/
theorem integer?_eq_some_iff {s : List Char} {n : Int} : integer? s = some n ↔ Denotes s n := by
  constructor
  · intro h
    unfold integer? at h
    split at h <;> obtain ⟨k, hk, rfl⟩ := Option.map_eq_some_iff.mp h <;>
      obtain ⟨hds, rfl⟩ := digits?_eq_some_iff.mp hk
    · exact .plus hds
    · exact .minus hds
    · exact .unsigned hds
  · intro h
    cases h with
    | @unsigned ds hds =>
      have hread := digits?_eq_some_iff.mpr ⟨hds, rfl⟩
      unfold integer?
      split
      · exact absurd rfl (hds.ne_cons rfl)
      · exact absurd rfl (hds.ne_cons rfl)
      · rw [hread]
        rfl
    | plus hds =>
      rw [integer?, digits?_eq_some_iff.mpr ⟨hds, rfl⟩]
      rfl
    | minus hds =>
      rw [integer?, digits?_eq_some_iff.mpr ⟨hds, rfl⟩]
      rfl

/-- The code points of digits. -/
theorem AreDigits.bounds {ds : List Char} (h : AreDigits ds) :
    ∀ c ∈ ds, 0x30 ≤ c.toNat ∧ c.toNat ≤ 0x39 := by
  intro c hc
  obtain ⟨hlow, hhigh⟩ := Bool.and_eq_true_iff.mp (h.2 c hc)
  exact ⟨of_decide_eq_true hlow, of_decide_eq_true hhigh⟩

/-- The code points of the characters of numerals. -/
theorem Denotes.bounds {s : List Char} {n : Int} (h : Denotes s n) :
    ∀ c ∈ s, 0x2B ≤ c.toNat ∧ c.toNat ≤ 0x39 := by
  have hsign : ∀ {ds : List Char} {sign : Char}, 0x2B ≤ sign.toNat ∧ sign.toNat ≤ 0x39 →
      AreDigits ds → ∀ c ∈ sign :: ds, 0x2B ≤ c.toNat ∧ c.toNat ≤ 0x39 := by
    intro ds sign hsign hds
    refine List.forall_mem_cons.mpr ⟨hsign, fun c hc => ?_⟩
    have hbounds := hds.bounds c hc
    omega
  cases h with
  | unsigned hds =>
    intro c hc
    have hbounds := hds.bounds c hc
    omega
  | plus hds => exact hsign (by decide) hds
  | minus hds => exact hsign (by decide) hds

theorem Denotes.ne_nil {s : List Char} {n : Int} (h : Denotes s n) : s ≠ [] := by
  cases h with
  | unsigned hds => exact hds.1
  | plus => exact List.cons_ne_nil _ _
  | minus => exact List.cons_ne_nil _ _

/-! ## The decimal form -/

theorem digitValue_digitChar {d : Nat} (h : d < 10) : digitValue (Nat.digitChar d) = d := by
  have hall : ∀ d < 10, digitValue (Nat.digitChar d) = d := by decide
  exact hall d h

theorem areDigits_decimal (n : Nat) : AreDigits (decimal n) := by
  refine ⟨?_, fun c hc => isDigit_of_mem_decimal hc⟩
  unfold decimal
  split
  · exact List.cons_ne_nil _ _
  · exact List.append_ne_nil_of_right_ne_nil _ (List.cons_ne_nil _ _)

/-- The digits of a number have its value. -/
theorem digitsValue_decimal (n : Nat) : digitsValue (decimal n) = n := by
  fun_induction decimal n with
  | case1 n hn =>
    rw [digitsValue_cons, digitValue_digitChar hn, digitsValue_nil, List.length_nil, Nat.pow_zero,
      Nat.one_mul, Nat.add_zero]
  | case2 n hn ih =>
    rw [digitsValue_append_singleton, digitValue_digitChar (Nat.mod_lt n (by decide)), ih]
    exact Nat.mod_add_div n 10

/-- **The decimal form.** Every integer is denoted by its decimal form. -/
theorem denotes_decimalInt (n : Int) : Denotes (decimalInt n) n := by
  have hvalue : (digitsValue (decimal n.natAbs) : Int) = n.natAbs :=
    congrArg Int.ofNat (digitsValue_decimal n.natAbs)
  unfold decimalInt
  split
  · next hneg =>
    have hminus := Denotes.minus (areDigits_decimal n.natAbs)
    rwa [hvalue, Int.ofNat_natAbs_of_nonpos (Int.le_of_lt hneg), Int.neg_neg] at hminus
  · next hnonneg =>
    have hunsigned := Denotes.unsigned (areDigits_decimal n.natAbs)
    rwa [hvalue, Int.natAbs_of_nonneg (Int.not_lt.mp hnonneg)] at hunsigned

end Plotter.Text
