/-!
# Numerals

Whole numbers are written in decimal without leading noughts (`decimal`). They are read from one or
more ASCII digits, with any number of leading noughts, behind an optional sign: a plus sign alone
where only natural numbers are wanted (`natural?`), either sign where integers are (`integer?`). A
number is read exactly, and only then compared with the range asked for.

The integers of sixty-four bits (`FitsSigned`) are also those that can be formed on the way of a
computation (`formed?`).
-/

namespace Plotter.Text

/-- The digits of a number, the first one first. -/
def decimal (n : Nat) : List Char :=
  if n < 10 then [Nat.digitChar n] else decimal (n / 10) ++ [Nat.digitChar (n % 10)]
termination_by n

/-- A number in decimal is made of digits. -/
theorem isDigit_of_mem_decimal {n : Nat} {c : Char} (h : c ∈ decimal n) : c.isDigit = true := by
  fun_induction decimal n with
  | case1 n hn =>
    rw [List.mem_singleton] at h
    rw [h, Nat.isDigit_digitChar, decide_eq_true hn]
  | case2 n hn ih =>
    rw [List.mem_append, List.mem_singleton] at h
    rcases h with h | h
    · exact ih h
    · rw [h, Nat.isDigit_digitChar, decide_eq_true (Nat.mod_lt n (by decide))]

/-- An integer in decimal, with a minus sign if it is negative. -/
def decimalInt (n : Int) : List Char :=
  if n < 0 then '-' :: decimal n.natAbs else decimal n.natAbs

/-- The value of an ASCII digit. -/
def digit? (c : Char) : Option Nat :=
  if '0' ≤ c ∧ c ≤ '9' then some (c.toNat - '0'.toNat) else none

/-- The value of further digits behind the value of those read so far. -/
def digitsAfter? (value : Nat) : List Char → Option Nat
  | [] => some value
  | c :: rest =>
    match digit? c with
    | some d => digitsAfter? (10 * value + d) rest
    | none => none

/-- The value of one or more digits. -/
def digits? : List Char → Option Nat
  | [] => none
  | s => digitsAfter? 0 s

/-- The value of a natural number with an optional plus sign. -/
def natural? : List Char → Option Nat
  | '+' :: s => digits? s
  | s => digits? s

/-- The value of an integer with an optional sign. -/
def integer? : List Char → Option Int
  | '+' :: s => (digits? s).map Int.ofNat
  | '-' :: s => (digits? s).map fun n => -Int.ofNat n
  | s => (digits? s).map Int.ofNat

/-- An integer is one of sixty-four bits with a sign. -/
def FitsSigned (n : Int) : Prop := -0x8000000000000000 ≤ n ∧ n < 0x8000000000000000

instance (n : Int) : Decidable (FitsSigned n) :=
  inferInstanceAs (Decidable (-0x8000000000000000 ≤ n ∧ n < 0x8000000000000000))

/-- A number that has been formed, unless it is none of those integers. -/
def formed? (n : Int) : Option Int := if FitsSigned n then some n else none

theorem formed?_eq_some_iff {n m : Int} : formed? n = some m ↔ FitsSigned n ∧ n = m := by
  unfold formed?
  split
  · next h => rw [Option.some.injEq, and_iff_right h]
  · next h => simp only [h, false_and, reduceCtorEq]

/-- The value of a numeral with an optional sign, if it is an integer of sixty-four bits. -/
def signed? (s : List Char) : Option Int := (integer? s).filter fun n => decide (FitsSigned n)

/-- The value of a numeral with an optional plus sign, if it is below a bound. -/
def unsigned? (bound : Nat) (s : List Char) : Option Nat :=
  (natural? s).filter fun n => decide (n < bound)

end Plotter.Text
