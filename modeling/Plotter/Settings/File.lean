import Plotter.Settings
import Plotter.Toml.Document

/-!
# The settings file

The file is a document with up to three tables, each with keys of its own and a part of the profile
to which they belong (`ServerPart`, `CanvasPart`, `LoggingPart`). What the tables and keys say is
taken over (`Reader.profile?`), and what is not known is passed over. The usual values come in twice:
for a key that is left out of its table, and for a table that is left out of the document. A key
whose value is not of the kind wanted, or out of range, makes the file unusable.

How a text is read as a document, and how an item stands for a table, is left to a reader (`Reader`).
The one at hand (`Reader.toml`) reads TOML. There a table may also be given as an array, whose items
then stand for its keys in their order (`entries?`). A key that is left out of such an array has its
usual value only if it has one at all. A date in the place of a table says nothing of the keys asked
for.
-/

namespace Plotter.Settings.File

open Toml

/-! ## Values -/

/-- The text that an item is. -/
def text? : Item → Option String
  | .text s => some s
  | _ => none

/-- The natural number below a bound that an item is. -/
def natural? (bound : Nat) : Item → Option Nat
  | .integer n => if 0 ≤ n ∧ n < bound then some n.toNat else none
  | _ => none

/-- The value under a key, or the usual one if the key is left out; nothing if the value is not of
the kind wanted. -/
def valueOr? {α : Type} (read : Item → Option α) (t : Entries) (key : String) (usual : α) :
    Option α :=
  match t.lookup key with
  | none => some usual
  | some i => read i

/-- The value under a key that need not be given. -/
def given? {α : Type} (read : Item → Option α) (t : Entries) (key : String) : Option (Option α) :=
  match t.lookup key with
  | none => some none
  | some i => (read i).map some

/-! ## Tables -/

/-- The entries of a table. Given as an array, its items stand for the keys `usual` and, behind them,
for the keys `wanted`, of which none may be missing. -/
def entries? (usual wanted : List String) : Item → Option Entries
  | .table _ t => some t
  | .array items =>
    if wanted = [] ∨ usual.length + wanted.length ≤ items.length then
      some ((usual ++ wanted).zip items)
    else none
  | .moment => some []
  | _ => none

/-- How a file is read. -/
structure Reader where
  /-- The entries of the document that a text is. -/
  document? : List Char → Option Entries
  /-- The entries of a table: the keys that have usual values, those that have none, and what is
  given in the place of the table. -/
  table? : List String → List String → Item → Option Entries

/-- The reader of TOML. -/
def Reader.toml : Reader := ⟨parse?, entries?⟩

/-- What the table under a key says, or what holds where it is left out. -/
def partOr? {α : Type} (read : Item → Option α) (root : Entries) (key : String) (absent : α) :
    Option α :=
  match root.lookup key with
  | none => some absent
  | some i => read i

/-- The number of values of a port. -/
def portCount : Nat := 0x10000

/-- What is said of the service. -/
structure ServerPart where
  /-- The address to listen on. -/
  host : String
  /-- The port to listen on. -/
  port : Nat
  /-- The largest number of sessions at a time. -/
  maxConnections : Nat

namespace ServerPart

/-- What holds where the table is left out. -/
def usual : ServerPart where
  host := Profile.usualHost
  port := Profile.usualPort
  maxConnections := Profile.usualMaxConnections

/-- What the entries of the table say. -/
def ofEntries? (t : Entries) : Option ServerPart := do
  return {
    host := ← valueOr? text? t "host" Profile.usualHost
    port := ← valueOr? (natural? portCount) t "port" Profile.usualPort
    maxConnections :=
      ← valueOr? (natural? wordSize) t "max_connections" Profile.usualMaxConnections }

/-- What the table says. -/
def read? (r : Reader) (i : Item) : Option ServerPart :=
  (r.table? ["host", "port", "max_connections"] [] i).bind ofEntries?

end ServerPart

/-- What is said of the canvas. -/
structure CanvasPart where
  /-- The number of columns. -/
  cols : Nat
  /-- The number of rows. -/
  rows : Nat
  /-- The glyph of the pen. -/
  glyph : String
  /-- The column where the pen is put down. -/
  startCol : Option Nat
  /-- The row where the pen is put down. -/
  startRow : Option Nat

namespace CanvasPart

/-- What holds where the table is left out. -/
def usual : CanvasPart where
  cols := Profile.usualCols
  rows := Profile.usualRows
  glyph := Profile.usualGlyph
  startCol := none
  startRow := none

/-- What the entries of the table say. -/
def ofEntries? (t : Entries) : Option CanvasPart := do
  return {
    cols := ← valueOr? (natural? wordSize) t "cols" Profile.usualCols
    rows := ← valueOr? (natural? wordSize) t "rows" Profile.usualRows
    glyph := ← valueOr? text? t "brush_glyph" Profile.usualGlyph
    startCol := ← given? (natural? wordSize) t "start_col"
    startRow := ← given? (natural? wordSize) t "start_row" }

/-- What the table says. -/
def read? (r : Reader) (i : Item) : Option CanvasPart :=
  (r.table? ["cols", "rows", "brush_glyph"] ["start_col", "start_row"] i).bind ofEntries?

end CanvasPart

/-- What is said of the log. -/
structure LoggingPart where
  /-- How much detail is logged. -/
  level : String

namespace LoggingPart

/-- What holds where the table is left out. -/
def usual : LoggingPart where
  level := Profile.usualLogLevel

/-- What the entries of the table say. -/
def ofEntries? (t : Entries) : Option LoggingPart := do
  return { level := ← valueOr? text? t "level" Profile.usualLogLevel }

/-- What the table says. -/
def read? (r : Reader) (i : Item) : Option LoggingPart :=
  (r.table? ["level"] [] i).bind ofEntries?

end LoggingPart

/-- The profile that a document gives. -/
def Reader.profile? (r : Reader) (root : Entries) : Option Profile := do
  let server ← partOr? (ServerPart.read? r) root "server" .usual
  let canvas ← partOr? (CanvasPart.read? r) root "canvas" .usual
  let logging ← partOr? (LoggingPart.read? r) root "logging" .usual
  return {
    host := server.host
    port := server.port
    maxConnections := server.maxConnections
    cols := canvas.cols
    rows := canvas.rows
    glyph := canvas.glyph
    startCol := canvas.startCol
    startRow := canvas.startRow
    logLevel := logging.level }

/-- The profile that the text of a file gives, if it is usable. -/
def Reader.ofText? (r : Reader) (s : List Char) : Option Profile := (r.document? s).bind r.profile?

/-- The profile that a text gives as TOML. -/
def ofText? (s : List Char) : Option Profile := Reader.toml.ofText? s

end Plotter.Settings.File
