import Plotter.Toml.Trivia

/-!
# Strings in TOML

A string stands between double quotes, and then backslashes have a meaning, or between single
quotes, and then they have none (`Quote`). With one quote at either end it stays on its line
(`readShort?`). With three it may go over several (`readLong?`): an end of a line that comes first
is left out, every other one becomes a line feed, and one or two quotes in a row belong to the
string, even right before the three that end it.

Both readers are machines that take one character at a time. What the characters just read still ask
for is the state of the machine (`Owed`, `LongOwed`).
-/

namespace Plotter.Toml

/-- The two kinds of quotes. -/
inductive Quote
  /-- Double quotes; backslashes have a meaning. -/
  | double
  /-- Single quotes; backslashes have none. -/
  | single
deriving DecidableEq, Repr

/-- The character of a quote. -/
def Quote.char : Quote → Char
  | double => '"'
  | single => '\x27'

/-! ## Escapes -/

/-- The character that a backslash and a letter stand for. -/
def escaped? (c : Char) : Option Char :=
  if c = 'b' then some '\x08'
  else if c = 't' then some '\t'
  else if c = 'n' then some '\n'
  else if c = 'f' then some '\x0c'
  else if c = 'r' then some '\r'
  else if c = '"' then some '"'
  else if c = '\\' then some '\\'
  else none

/-- The number of hexadecimal digits that a backslash and a letter announce. -/
def announced? (c : Char) : Option Nat :=
  if c = 'u' then some 4 else if c = 'U' then some 8 else none

/-- The value of a digit in bases up to sixteen. -/
def digitValue? (c : Char) : Option Nat :=
  if '0' ≤ c ∧ c ≤ '9' then some (c.toNat - '0'.toNat)
  else if 'a' ≤ c ∧ c ≤ 'f' then some (c.toNat - 'a'.toNat + 10)
  else if 'A' ≤ c ∧ c ≤ 'F' then some (c.toNat - 'A'.toNat + 10)
  else none

/-- The character with a code point, if there is one. -/
def scalar? (n : Nat) : Option Char := if n.isValidChar then some (Char.ofNat n) else none

/-- What an escape still asks for. -/
inductive Owed
  /-- Nothing: a character stands for itself. -/
  | nothing
  /-- What stands behind a backslash. -/
  | escape
  /-- So many hexadecimal digits behind the value of those before, and one more. -/
  | digits (more : Nat) (value : Nat)
deriving DecidableEq, Repr

/-- The state after one more character of an escape that has begun, and the character that the
escape stands for if it is over. -/
def Owed.next? : Owed → Char → Option (Owed × Option Char)
  | nothing, _ => none
  | escape, c =>
    match escaped? c, announced? c with
    | some d, _ => some (nothing, some d)
    | none, some n => some (digits (n - 1) 0, none)
    | none, none => none
  | digits more value, c => do
    let value := 16 * value + (← digitValue? c)
    match more with
    | 0 => return (nothing, some (← scalar? value))
    | n + 1 => return (digits n value, none)

/-! ## Strings on one line -/

/-- Read on in a string; `done` are its characters so far, last one first. -/
def readShortInto? (q : Quote) (owed : Owed) (done : List Char) :
    List Char → Option (String × List Char)
  | [] => none
  | c :: rest =>
    match owed with
    | .nothing =>
      if c = q.char then some (String.ofList done.reverse, rest)
      else if c = '\\' ∧ q = .double then readShortInto? q .escape done rest
      else if isPlain c then readShortInto? q .nothing (c :: done) rest
      else none
    | _ =>
      match owed.next? c with
      | some (o, some d) => readShortInto? q o (d :: done) rest
      | some (o, none) => readShortInto? q o done rest
      | none => none

/-- Read a string behind its opening quote. -/
def readShort? (q : Quote) (s : List Char) : Option (String × List Char) :=
  readShortInto? q .nothing [] s

/-! ## Strings over several lines -/

/-- What the characters just read in a string over several lines still ask for. -/
inductive LongOwed
  /-- An escape may have begun. -/
  | inner (o : Owed)
  /-- A line feed behind a carriage return. -/
  | lineFeed
  /-- The end of a line behind a backslash and blanks. -/
  | fold
  /-- A line feed behind a backslash, blanks and a carriage return, or behind a carriage return
  among the ends of lines that a backslash takes away. -/
  | foldLineFeed
  /-- Blanks and ends of lines are taken away. -/
  | folding
  /-- So many quotes have been read in a row. -/
  | quotes (count : Nat)
deriving DecidableEq, Repr

/-- The state and the characters after a character with nothing owed before it. -/
def plainNext? (q : Quote) (done : List Char) (c : Char) : Option (LongOwed × List Char) :=
  if c = q.char then some (.quotes 1, done)
  else if c = '\\' ∧ q = .double then some (.inner .escape, done)
  else if c = '\n' then some (.inner .nothing, '\n' :: done)
  else if c = '\r' then some (.lineFeed, done)
  else if isPlain c then some (.inner .nothing, c :: done)
  else none

/-- The state and the characters after one more character. -/
def longNext? (q : Quote) (owed : LongOwed) (done : List Char) (c : Char) :
    Option (LongOwed × List Char) :=
  match owed with
  | .inner .nothing => plainNext? q done c
  | .inner .escape =>
    if isBlank c then some (.fold, done)
    else if c = '\n' then some (.folding, done)
    else if c = '\r' then some (.foldLineFeed, done)
    else (Owed.escape.next? c).map fun (o, d) => (.inner o, d.toList ++ done)
  | .inner o => (o.next? c).map fun (o, d) => (.inner o, d.toList ++ done)
  | .lineFeed => if c = '\n' then some (.inner .nothing, '\n' :: done) else none
  | .fold =>
    if isBlank c then some (.fold, done)
    else if c = '\n' then some (.folding, done)
    else if c = '\r' then some (.foldLineFeed, done)
    else none
  | .foldLineFeed => if c = '\n' then some (.folding, done) else none
  | .folding =>
    if isBlank c ∨ c = '\n' then some (.folding, done)
    else if c = '\r' then some (.foldLineFeed, done)
    else plainNext? q done c
  | .quotes n =>
    if c = q.char then some (.quotes (n + 1), done)
    else plainNext? q (List.replicate n q.char ++ done) c

/-- The string that has ended with `n` quotes, of which three are not its own. -/
def endLong (q : Quote) (n : Nat) (done : List Char) : String :=
  String.ofList (List.replicate (n - 3) q.char ++ done).reverse

/-- Read on in a string; `done` are its characters so far, last one first. The string has ended if
three quotes have been read and no quote follows, or if five have. -/
def readLongInto? (q : Quote) (owed : LongOwed) (done : List Char) :
    List Char → Option (String × List Char)
  | [] =>
    match owed with
    | .quotes n => if 3 ≤ n then some (endLong q n done, []) else none
    | _ => none
  | c :: rest =>
    let ended : Option Nat :=
      match owed with
      | .quotes n => if 5 ≤ n ∨ (3 ≤ n ∧ c ≠ q.char) then some n else none
      | _ => none
    match ended with
    | some n => some (endLong q n done, c :: rest)
    | none =>
      match longNext? q owed done c with
      | some (o, d) => readLongInto? q o d rest
      | none => none

/-- Read a string behind its three opening quotes. -/
def readLong? (q : Quote) (s : List Char) : Option (String × List Char) :=
  readLongInto? q (.inner .nothing) [] (skipLineEnd s)

/-- Read a string behind its first quote, of whichever length. -/
def readString? (q : Quote) : List Char → Option (String × List Char)
  | a :: b :: rest =>
    if a = q.char ∧ b = q.char then readLong? q rest else readShort? q (a :: b :: rest)
  | s => readShort? q s

end Plotter.Toml
