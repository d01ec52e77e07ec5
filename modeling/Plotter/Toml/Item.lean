/-!
# TOML documents as trees

What a document says is a tree of items under keys. This file holds the tree (`Item`, `Entries`) and
the two ways in which a document adds to it: a header opens a table (`Entries.openTable?`) or one
more table of an array of tables (`Entries.openMember?`), and a key gives a value within the open
table (`Entries.assign?`).

A table may be stated once. So every table remembers how it came to be (`Origin`), and that decides
what may still be added: a table that is only implied by a header further down may be opened by a
header of its own, one that was made by dotted keys may be added to by dotted keys, and one that was
written in braces is closed.

The order of keys is of no meaning, and no function here depends on it.
-/

namespace Plotter.Toml

/-- How a table came to be. -/
inductive Origin
  /-- By a header of its own; the document itself counts as such a table. -/
  | stated
  /-- By the header of a table within it. -/
  | implied
  /-- By a dotted key. -/
  | dotted
  /-- By braces. -/
  | braced
deriving DecidableEq, Repr

/-- What stands under a key. -/
inductive Item
  /-- A string. -/
  | text (s : String)
  /-- An integer. -/
  | integer (n : Int)
  /-- A number with a fraction or an exponent, an infinity, or no number. -/
  | real
  /-- A truth value. -/
  | truth (b : Bool)
  /-- A date, a time of day, or both. -/
  | moment
  /-- An array of values. -/
  | array (items : List Item)
  /-- A table, with how it came to be. -/
  | table (origin : Origin) (entries : List (String × Item))
  /-- An array of tables that were opened one after the other, the last one apart. -/
  | tables (earlier : List (List (String × Item))) (last : List (String × Item))

/-- The items of a table, each under its key. -/
abbrev Entries := List (String × Item)

namespace Entries

/-- The entries with another item under a key. -/
def put (t : Entries) (key : String) (i : Item) : Entries :=
  (key, i) :: t.filter fun e => e.1 != key

/-- Change the table at a path from an open one. On the way, a missing table is made with the origin
`made`, and a table is entered only if `enter` allows its origin; of an array of tables the last
member is entered. The change learns the origin of the table it is made to. -/
def alter? (made : Origin) (enter : Origin → Bool)
    (change : Origin → Entries → Option Entries) : List String → Origin → Entries → Option Entries
  | [], o, t => change o t
  | key :: path, _, t =>
    match t.lookup key with
    | none => (alter? made enter change path made []).map fun s => t.put key (.table made s)
    | some (.table o s) =>
      if enter o then
        (alter? made enter change path o s).map fun s => t.put key (.table o s)
      else none
    | some (.tables earlier last) =>
      (alter? made enter change path .stated last).map fun s => t.put key (.tables earlier s)
    | some _ => none

/-! ## Headers -/

/-- Change the table at the path of a header, tables on the way being implied. -/
def alterHeaded? (path : List String) (change : Origin → Entries → Option Entries) (t : Entries) :
    Option Entries :=
  alter? .implied (fun o => o != .braced) change path .stated t

/-- Open a table by its header. It may be implied so far, but nothing else. -/
def openTable? (path : List String) (key : String) (t : Entries) : Option Entries :=
  alterHeaded? path (fun _ s =>
    match s.lookup key with
    | none => some (s.put key (.table .stated []))
    | some (.table .implied u) => some (s.put key (.table .stated u))
    | some _ => none) t

/-- Open one more table of an array of tables by its header. -/
def openMember? (path : List String) (key : String) (t : Entries) : Option Entries :=
  alterHeaded? path (fun _ s =>
    match s.lookup key with
    | none => some (s.put key (.tables [] []))
    | some (.tables earlier last) => some (s.put key (.tables (earlier ++ [last]) []))
    | some _ => none) t

/-! ## Keys -/

/-- A dotted key goes through tables that were implied or made by dotted keys. -/
def throughDots (o : Origin) : Bool := o == .implied || o == .dotted

/-- Give a key a value that it does not have yet. A dotted key adds only to a table that dotted keys
have made, and a plain one only to a table that they have not. -/
def assign? (path : List String) (key : String) (i : Item) (o : Origin) (t : Entries) :
    Option Entries :=
  alter? .dotted throughDots (fun o s =>
    if (o == .dotted) == path.isEmpty then none
    else if (s.lookup key).isSome then none
    else some (s.put key i)) path o t

/-! ## What is under a key -/

/-- The item put under a key is found there. -/
@[simp] theorem lookup_put_self (t : Entries) (key : String) (i : Item) :
    (t.put key i).lookup key = some i := by
  simp [put]

/-- Other keys keep their items. -/
theorem lookup_put_of_ne {t : Entries} {key other : String} {i : Item} (h : other ≠ key) :
    (t.put key i).lookup other = t.lookup other := by
  have hk : (other == key) = false := by simpa using h
  simp only [put, List.lookup_cons, hk]
  induction t with
  | nil => rfl
  | cons e rest ih =>
    obtain ⟨k, v⟩ := e
    by_cases hke : k = key
    · subst hke
      simp [List.lookup_cons, hk, ih]
    · by_cases ho : other = k
      · subst ho
        simp [hke]
      · have : (other == k) = false := by simpa using ho
        simp [List.lookup_cons, hke, this, ih]

end Entries

end Plotter.Toml
