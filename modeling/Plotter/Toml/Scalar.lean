import Plotter.Text.Numeral
import Plotter.Toml.Item
import Plotter.Toml.Quotation

/-!
# Numbers, truth values, dates and times in TOML

A value that is neither quoted nor bracketed is one run of letters, digits and a few signs, save
that a date and a time may be parted by a space. This file says what such a run means
(`Item.ofRun?`).

Underscores may stand between two digits. A decimal number has no leading noughts; numbers in other
bases have no sign. An integer is one of sixty-four bits. Of a number with a fraction or an exponent
it is only kept that there is one, since nothing asks for its value; it may not be so large that the
nearest binary number of sixty-four bits is infinity (`tooLarge`). An exponent is read up to a bound
only (`exponentBound`).
-/

namespace Plotter.Toml

open Text

/-! ## Digits -/

/-- The value of a digit in a base. -/
def digitIn? (base : Nat) (c : Char) : Option Nat :=
  (digitValue? c).filter fun d => decide (d < base)

/-- Further digits behind those in `done`, the last of which comes first there. `closed` says that a
digit has come just before, so that an underscore may follow or the number end. -/
def groupedAfter? (base : Nat) (done : List Nat) (closed : Bool) : List Char → Option (List Nat)
  | [] => if closed then some done.reverse else none
  | '_' :: rest => if closed then groupedAfter? base done false rest else none
  | c :: rest =>
    match digitIn? base c with
    | some d => groupedAfter? base (d :: done) true rest
    | none => none

/-- One or more digits with single underscores between them. -/
def grouped? (base : Nat) (s : List Char) : Option (List Nat) := groupedAfter? base [] false s

/-- The value of digits, if it is below a bound. -/
def valueBelow? (bound base : Nat) (digits : List Nat) : Option Nat :=
  digits.foldlM (fun n d =>
    let next := base * n + d
    if next < bound then some next else none) 0

/-- A sign that may come first: whether the number is negative, and the text behind it. -/
def signed : List Char → Bool × List Char
  | '+' :: rest => (false, rest)
  | '-' :: rest => (true, rest)
  | s => (false, s)

/-- Decimal digits without leading noughts. -/
def decimal? : List Char → Option (List Nat)
  | ['0'] => some [0]
  | '0' :: _ => none
  | s => grouped? 10 s

/-! ## Integers -/

/-- The integers of sixty-four bits are at least the negative of this and below this. -/
def integerBound : Nat := 0x8000000000000000

/-- The integer that a run means. -/
def runInteger? : List Char → Option Int
  | '0' :: 'x' :: rest => ((grouped? 16 rest).bind (valueBelow? integerBound 16)).map Int.ofNat
  | '0' :: 'o' :: rest => ((grouped? 8 rest).bind (valueBelow? integerBound 8)).map Int.ofNat
  | '0' :: 'b' :: rest => ((grouped? 2 rest).bind (valueBelow? integerBound 2)).map Int.ofNat
  | s =>
    let (negative, text) := signed s
    if negative then
      ((decimal? text).bind (valueBelow? (integerBound + 1) 10)).map fun n => -Int.ofNat n
    else ((decimal? text).bind (valueBelow? integerBound 10)).map Int.ofNat

/-! ## Numbers with a fraction or an exponent -/

/-- The least number whose nearest binary number of sixty-four bits is infinity. -/
def overflow : Nat := (1 <<< 1024) - (1 <<< 970)

/-- The number of decimal digits of `overflow`. -/
def overflowLength : Nat := 309

/-- Whether the number with these digits behind the point, times ten to this power, is too large.
The first digit that is not nought tells the order of magnitude. Only within that of `overflow` are
more digits looked at, and none behind the point, since `overflow` is whole. -/
def tooLarge (digits : List Nat) (power : Int) : Bool :=
  let significant := digits.dropWhile (· == 0)
  let magnitude := power - (digits.length - significant.length : Nat)
  if significant.isEmpty || magnitude < overflowLength then false
  else if overflowLength < magnitude then true
  else
    let whole := (significant ++ List.replicate overflowLength 0).take overflowLength
    (valueBelow? overflow 10 whole).isNone

/-- An exponent that has reached this bound is read no further. -/
def exponentBound : Nat := 0x10000

/-- The value of the digits of an exponent. The digits behind those that reach `exponentBound` are
passed over. -/
def exponentValue (digits : List Nat) : Nat :=
  digits.foldl (fun n d => if n < exponentBound then 10 * n + d else n) 0

/-- A character of a group of decimal digits. -/
def isGrouped (c : Char) : Bool := (digitIn? 10 c).isSome || c == '_'

/-- The exponent at the end of a number; nought if nothing is there. -/
def exponent? : List Char → Option Int
  | [] => some 0
  | c :: rest =>
    if c = 'e' ∨ c = 'E' then
      let (negative, text) := signed rest
      (grouped? 10 text).map fun digits =>
        if negative then -Int.ofNat (exponentValue digits) else Int.ofNat (exponentValue digits)
    else none

/-- The digits behind a point that comes next, and what stands behind them. -/
def fraction? : List Char → Option (List Nat × List Char)
  | '.' :: rest =>
    (grouped? 10 (rest.takeWhile isGrouped)).map fun digits => (digits, rest.dropWhile isGrouped)
  | s => some ([], s)

/-- A run without its sign is a number with a fraction, an exponent or both, and not too large. -/
def isUnsignedReal (negative : Bool) (s : List Char) : Bool :=
  let rest := s.dropWhile isGrouped
  let result := do
    let whole ← decimal? (s.takeWhile isGrouped)
    let (fraction, tail) ← fraction? rest
    let e ← exponent? tail
    return negative || !tooLarge (whole ++ fraction) (whole.length + e)
  !rest.isEmpty && result.getD false

/-- A run is a number with a fraction or an exponent, an infinity, or no number. -/
def isReal (s : List Char) : Bool :=
  let (negative, t) := signed s
  t == ['i', 'n', 'f'] || t == ['n', 'a', 'n'] || isUnsignedReal negative t

/-! ## Dates and times -/

/-- The value of two digits that come first, and the text behind them. -/
def twoDigits? : List Char → Option (Nat × List Char)
  | a :: b :: rest =>
    match digit? a, digit? b with
    | some x, some y => some (10 * x + y, rest)
    | _, _ => none
  | _ => none

/-- The value of two digits that come first, if it is within bounds. -/
def twoDigitsWithin? (low high : Nat) (s : List Char) : Option (Nat × List Char) :=
  (twoDigits? s).filter fun r => decide (low ≤ r.1 ∧ r.1 ≤ high)

/-- The text behind a character that comes first. -/
def behind? (c : Char) : List Char → Option (List Char)
  | d :: rest => if d = c then some rest else none
  | [] => none

/-- A year has a twenty-ninth of February. -/
def isLeap (year : Nat) : Bool := year % 4 == 0 && (year % 100 != 0 || year % 400 == 0)

/-- The number of days of a month. -/
def daysIn (year month : Nat) : Nat :=
  if month = 2 then if isLeap year then 29 else 28
  else if month = 4 ∨ month = 6 ∨ month = 9 ∨ month = 11 then 30
  else 31

/-- The text behind a date. -/
def behindDate? (s : List Char) : Option (List Char) := do
  let (century, s) ← twoDigits? s
  let (year, s) ← twoDigits? s
  let s ← behind? '-' s
  let (month, s) ← twoDigitsWithin? 1 12 s
  let s ← behind? '-' s
  let (_, s) ← twoDigitsWithin? 1 (daysIn (100 * century + year) month) s
  return s

/-- The text behind the fraction of a second, which may be left out. -/
def behindFraction? : List Char → Option (List Char)
  | '.' :: rest =>
    let digits := rest.takeWhile fun c => (digit? c).isSome
    if digits.isEmpty then none else some (rest.dropWhile fun c => (digit? c).isSome)
  | s => some s

/-- The text behind a time of day. -/
def behindTime? (s : List Char) : Option (List Char) := do
  let (_, s) ← twoDigitsWithin? 0 23 s
  let s ← behind? ':' s
  let (_, s) ← twoDigitsWithin? 0 59 s
  let s ← behind? ':' s
  let (_, s) ← twoDigitsWithin? 0 60 s
  behindFraction? s

/-- The text behind the distance of a time from that of Greenwich, which may be left out. -/
def behindZone? : List Char → Option (List Char)
  | [] => some []
  | c :: rest =>
    if c = 'Z' ∨ c = 'z' then some rest
    else if c = '+' ∨ c = '-' then do
      let (_, s) ← twoDigitsWithin? 0 23 rest
      let s ← behind? ':' s
      let (_, s) ← twoDigitsWithin? 0 59 s
      return s
    else none

/-- A character may part a date from a time. -/
def partsMoment (c : Char) : Bool := c == 'T' || c == 't' || c == ' '

/-- A run is a date, a time of day, or both. -/
def isMoment (s : List Char) : Bool :=
  match behindDate? s with
  | some [] => true
  | some (c :: rest) => partsMoment c && ((behindTime? rest).bind behindZone?) == some []
  | none => behindTime? s == some []

/-- A run is a date alone. -/
def isDate (s : List Char) : Bool := behindDate? s == some []

/-! ## Runs -/

/-- What a run means. -/
def Item.ofRun? (s : List Char) : Option Item :=
  if s = ['t', 'r', 'u', 'e'] then some (.truth true)
  else if s = ['f', 'a', 'l', 's', 'e'] then some (.truth false)
  else
    match runInteger? s with
    | some n => some (.integer n)
    | none => if isReal s then some .real else if isMoment s then some .moment else none

/-- A character of a run. -/
def isRun (c : Char) : Bool :=
  c.isAlphanum || c == '_' || c == '+' || c == '-' || c == '.' || c == ':'

/-- Read a run that comes next. A space and what follows it belong to the run if a date stands
before and a digit after the space. -/
def readRun (s : List Char) : List Char × List Char :=
  let first := s.takeWhile isRun
  let rest := s.dropWhile isRun
  match rest with
  | ' ' :: c :: more =>
    if isDate first ∧ (digit? c).isSome then
      (first ++ ' ' :: (c :: more).takeWhile isRun, (c :: more).dropWhile isRun)
    else (first, rest)
  | _ => (first, rest)

end Plotter.Toml
