import Plotter.Toml.Scalar

/-!
# Statements of TOML

A document is a sequence of statements, each on lines of its own: a header that opens a table, one
that opens a member of an array of tables, or a key with its value (`Statement`). This file reads
keys, values and statements; what they do to the document is said elsewhere.

Arrays and braces may be nested to a depth of `maxDepth`, and a key may have `maxParts` parts. The
depth left is the measure of the reader of values; the loops within one level are bounded by the
length of the text, of which each round takes at least one character.
-/

namespace Plotter.Toml

/-! ## Keys -/

/-- A key: the parts before the last dot, and the part behind it. -/
structure Key where
  /-- The parts before the last dot. -/
  path : List String
  /-- The last part. -/
  last : String
deriving DecidableEq, Repr

/-- The largest number of parts of a key. -/
def maxParts : Nat := 79

/-- A character of a key that stands without quotes. -/
def isBare (c : Char) : Bool := c.isAlphanum || c == '_' || c == '-'

/-- Read one part of a key with the blanks around it. -/
def readPart? (s : List Char) : Option (String × List Char) := do
  let (part, rest) ←
    match skipBlanks s with
    | '"' :: rest => readShort? .double rest
    | '\x27' :: rest => readShort? .single rest
    | t =>
      match t.takeWhile isBare with
      | [] => none
      | bare => some (String.ofList bare, t.dropWhile isBare)
  return (part, skipBlanks rest)

/-- Read the parts behind the one read last, of which the others are in `path`, last one first. -/
def readParts? (path : List String) (last : String) :
    Nat → List Char → Option (Key × List Char)
  | 0, _ => none
  | left + 1, s =>
    match s with
    | '.' :: rest =>
      match readPart? rest with
      | some (part, more) => readParts? (last :: path) part left more
      | none => none
    | _ => some (⟨path.reverse, last⟩, s)

/-- Read a key with the blanks around it. -/
def readKey? (s : List Char) : Option (Key × List Char) := do
  let (part, rest) ← readPart? s
  readParts? [] part maxParts rest

/-! ## Values -/

/-- A reader of a value. -/
abbrev Reader := List Char → Option (Item × List Char)

/-- Read the rest of an array; `done` are the values before, last one first. -/
def readArray? (value : Reader) (done : List Item) : Nat → Reader
  | 0, _ => none
  | left + 1, s => do
    match ← skipTrivia? false s with
    | ']' :: rest => return (.array done.reverse, rest)
    | t =>
      let (v, rest) ← value t
      match ← skipTrivia? false rest with
      | ',' :: more => readArray? value (v :: done) left more
      | ']' :: more => return (.array (v :: done).reverse, more)
      | _ => none

/-- Read the rest of a table in braces behind a brace or a comma. -/
def readBraced? (value : Reader) (done : Entries) : Nat → Reader
  | 0, _ => none
  | left + 1, s => do
    let (key, rest) ← readKey? s
    let (v, rest) ← value (skipBlanks (← behind? '=' rest))
    let done ← done.assign? key.path key.last v .braced
    match skipBlanks rest with
    | ',' :: more => readBraced? value done left more
    | '}' :: more => return (.table .braced done, more)
    | _ => none

/-- Read a table in braces behind its opening brace. -/
def readTable? (value : Reader) : Reader := fun s =>
  match skipBlanks s with
  | '}' :: rest => some (.table .braced [], rest)
  | t => readBraced? value [] (t.length + 1) t

/-- Read a value that is neither an array nor in braces. -/
def readScalar? : Reader
  | '"' :: rest => (readString? .double rest).map fun r => (.text r.1, r.2)
  | '\x27' :: rest => (readString? .single rest).map fun r => (.text r.1, r.2)
  | s =>
    let (run, rest) := readRun s
    (Item.ofRun? run).map fun i => (i, rest)

/-- The largest depth to which arrays and braces may be nested. -/
def maxDepth : Nat := 79

/-- Read a value in which arrays and braces are nested to at most the given depth. -/
def readWithin? : Nat → Reader
  | 0 => fun s =>
    match s with
    | '[' :: _ => none
    | '{' :: _ => none
    | _ => readScalar? s
  | depth + 1 => fun s =>
    match s with
    | '[' :: rest => readArray? (readWithin? depth) [] (rest.length + 1) rest
    | '{' :: rest => readTable? (readWithin? depth) rest
    | _ => readScalar? s

/-- Read a value. -/
def readValue? : Reader := readWithin? maxDepth

/-! ## Statements -/

/-- What one statement says. -/
inductive Statement
  /-- Open a table. -/
  | table (key : Key)
  /-- Open one more member of an array of tables. -/
  | member (key : Key)
  /-- Give a key a value. -/
  | assign (key : Key) (value : Item)

/-- Read a header behind its opening bracket, and the rest of its line. -/
def readHeader? : List Char → Option (Statement × List Char)
  | '[' :: rest => do
    let (key, rest) ← readKey? rest
    let rest ← behind? ']' (← behind? ']' rest)
    return (.member key, ← restOfLine? rest)
  | s => do
    let (key, rest) ← readKey? s
    return (.table key, ← restOfLine? (← behind? ']' rest))

/-- Read a key with its value, and the rest of the line. -/
def readAssignment? (s : List Char) : Option (Statement × List Char) := do
  let (key, rest) ← readKey? s
  let (value, rest) ← readValue? (skipBlanks (← behind? '=' rest))
  return (.assign key value, ← restOfLine? rest)

/-- Read the statements of a document; `done` are those before, last one first. -/
def readStatements? (done : List Statement) : Nat → List Char → Option (List Statement)
  | 0, _ => none
  | left + 1, s =>
    match skipBlanks s with
    | [] => some done.reverse
    | '[' :: rest =>
      match readHeader? rest with
      | some (st, more) => readStatements? (st :: done) left more
      | none => none
    | c :: rest =>
      if c = '#' ∨ c = '\n' ∨ c = '\r' then
        match restOfLine? (c :: rest) with
        | some more => readStatements? done left more
        | none => none
      else
        match readAssignment? (c :: rest) with
        | some (st, more) => readStatements? (st :: done) left more
        | none => none

/-- The text without the mark of its byte order, which may come first. -/
def withoutMark : List Char → List Char
  | '\uFEFF' :: rest => rest
  | s => s

/-- The statements of a document. -/
def statements? (s : List Char) : Option (List Statement) :=
  let t := withoutMark s
  readStatements? [] (t.length + 1) t

end Plotter.Toml
