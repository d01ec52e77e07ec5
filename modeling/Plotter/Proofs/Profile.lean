import Mathlib
import Plotter.Proofs.Launch
import Plotter.Proofs.Toml.Absence
import Plotter.Proofs.Toml.Contents

/-!
# What a profile takes from a document

Each of the nine settings of a file has a place of its own: a table, a key, and the place of that
key among those of the table, which counts where the table is given as an array (`Place`). The value
of a setting is what the document gives at its place, or else the usual one (`Follows`). Nothing else
in the document has a part in it, and so neither has the order of what is said, nor whether a table
that is left out is opened without anything in it. A document that says nothing stands for no file
at all (`ofText?_exact`).

Of the notation of the file this uses only that a document holds what its text states, and which
items stand for a table (`Reader.Lawful`); TOML is a notation of this kind
(`Reader.lawful_toml`).
-/

namespace Plotter.Settings.File

open Toml

/-! ## Places -/

/-- Where a setting is given: the table, the key, and the place of the key in its table. -/
structure Place where
  table : String
  key : String
  index : Nat

/-- The places of the nine settings. -/
def places : List Place :=
  [⟨"server", "host", 0⟩, ⟨"server", "port", 1⟩, ⟨"server", "max_connections", 2⟩,
    ⟨"canvas", "cols", 0⟩, ⟨"canvas", "rows", 1⟩, ⟨"canvas", "brush_glyph", 2⟩,
    ⟨"canvas", "start_col", 3⟩, ⟨"canvas", "start_row", 4⟩, ⟨"logging", "level", 0⟩]

/-- Among the items that are given to keys, one is given at a place: to the key of the table itself,
within a table that is written in braces, or, in an array that stands for the table, where the key
has its place. -/
inductive GivenAt (given : List (List String × Item)) (x : Place) (i : Item) : Prop
  | named (h : ([x.table, x.key], i) ∈ given)
  | braced {t : Entries} (h : ([x.table], .table .braced t) ∈ given) (hi : t.lookup x.key = some i)
  | listed {items : List Item} (h : ([x.table], .array items) ∈ given)
      (hi : items[x.index]? = some i)

/-- A setting has the value that is given, or else the usual one. -/
structure Decided {α : Type} (given : Item → Prop) (read : Item → Option α) (usual value : α) :
    Prop where
  of_given : ∀ {i}, given i → read i = some value
  of_not_given : (∀ i, ¬ given i) → value = usual

/-- The item of a setting that need not be given. -/
def start? (i : Item) : Option (Option Nat) := (natural? wordSize i).map some

/-- Each of the nine settings has the value that is given at its place, or else the usual one. -/
structure Follows (given : List (List String × Item)) (p : Profile) : Prop where
  host : Decided (GivenAt given ⟨"server", "host", 0⟩) text? "0.0.0.0" p.host
  port : Decided (GivenAt given ⟨"server", "port", 1⟩) (natural? portCount) 8124 p.port
  maxConnections :
    Decided (GivenAt given ⟨"server", "max_connections", 2⟩) (natural? wordSize) 1024 p.maxConnections
  cols : Decided (GivenAt given ⟨"canvas", "cols", 0⟩) (natural? wordSize) 30 p.cols
  rows : Decided (GivenAt given ⟨"canvas", "rows", 1⟩) (natural? wordSize) 30 p.rows
  glyph : Decided (GivenAt given ⟨"canvas", "brush_glyph", 2⟩) text? "*" p.glyph
  startCol : Decided (GivenAt given ⟨"canvas", "start_col", 3⟩) start? none p.startCol
  startRow : Decided (GivenAt given ⟨"canvas", "start_row", 4⟩) start? none p.startRow
  logLevel : Decided (GivenAt given ⟨"logging", "level", 0⟩) text? "info" p.logLevel

/-- What is given elsewhere is not given at a place. -/
theorem givenAt_cons_iff {given : List (List String × Item)} {path : List String} {v i : Item}
    {x : Place} (hkey : path ≠ [x.table, x.key]) (htable : path ≠ [x.table]) :
    GivenAt ((path, v) :: given) x i ↔ GivenAt given x i := by
  have hmem : ∀ {q j}, q ≠ path → ((q, j) ∈ (path, v) :: given ↔ (q, j) ∈ given) := by
    intro q j hq
    simp [hq]
  constructor
  · rintro (h | ⟨h, hi⟩ | ⟨h, hi⟩)
    · exact .named ((hmem hkey.symm).1 h)
    · exact .braced ((hmem htable.symm).1 h) hi
    · exact .listed ((hmem htable.symm).1 h) hi
  · rintro (h | ⟨h, hi⟩ | ⟨h, hi⟩)
    · exact .named ((hmem hkey.symm).2 h)
    · exact .braced ((hmem htable.symm).2 h) hi
    · exact .listed ((hmem htable.symm).2 h) hi

/-! ## What is read -/

section Read

variable {α : Type}

/-- Only values are read. -/
def ReadsValues (read : Item → Option α) : Prop := ∀ i v, read i = some v → i.IsValue

theorem readsValues_text? : ReadsValues text? := by
  intro i v h
  cases i with
  | text s => trivial
  | _ => cases h

theorem readsValues_natural? (bound : Nat) : ReadsValues (natural? bound) := by
  intro i v h
  cases i with
  | integer n => trivial
  | _ => cases h

theorem readsValues_start? : ReadsValues start? := by
  intro i v h
  obtain ⟨n, hn, -⟩ := Option.map_eq_some_iff.1 h
  exact readsValues_natural? wordSize i n hn

theorem given?_eq_valueOr? (t : Entries) (key : String) :
    given? (natural? wordSize) t key = valueOr? start? t key none := rfl

end Read

/-! ## What is relied on of a reader -/

/-- What is relied on of how a file is read, where `stated?` says what a text states. -/
structure Reader.Lawful (r : Reader) (stated? : List Char → Option (List Statement)) : Prop where
  /-- A document holds what the statements of its text give, and nothing else. -/
  tells : ∀ {s root}, r.document? s = some root →
    ∃ ss, stated? s = some ss ∧ Tells root (assignments [] ss)
  /-- The header of a table that is left out opens it, without anything in it, and does nothing
  else. -/
  opened : ∀ {s s' a b root} {name : String}, stated? s = some (a ++ b) →
    stated? s' = some (a ++ .table ⟨[], name⟩ :: b) → (∀ st ∈ b.head?, st.IsHeader) →
    r.document? s = some root → root.lookup name = none →
    ∃ root', r.document? s' = some root' ∧ AgreeBesides name root root' ∧
      root'.lookup name = some (.table .stated [])
  /-- Nothing is stated by the empty text. -/
  nil : stated? [] = some []
  /-- A text that states nothing is the empty document. -/
  silent : ∀ {s}, stated? s = some [] → r.document? s = some []
  /-- A table stands for itself. -/
  table : ∀ {usual wanted o t}, r.table? usual wanted (.table o t) = some t
  /-- Besides tables only these stand for one: an array, whose items stand for the keys in their
  order, and a date, which says nothing. -/
  taken : ∀ {usual wanted i t}, r.table? usual wanted i = some t →
    (∃ o, i = .table o t) ∨ (∃ items, i = .array items ∧ t = (usual ++ wanted).zip items) ∨
      i = .moment ∧ t = []

/-- TOML is read as is relied on. -/
theorem Reader.lawful_toml : Reader.toml.Lawful statements? where
  tells := by
    intro s root h
    obtain ⟨ss, hss, -⟩ := Option.bind_eq_some_iff.1 h
    exact ⟨ss, hss, tells_of_parse? hss h⟩
  opened := parse?_of_opened
  nil := rfl
  silent := by
    intro s h
    show parse? s = some []
    rw [parse?, h]
    rfl
  table := rfl
  taken := by
    intro usual wanted i t h
    replace h : entries? usual wanted i = some t := h
    cases i with
    | table o u =>
      cases h
      exact Or.inl ⟨o, rfl⟩
    | array items =>
      dsimp only [entries?] at h
      split at h
      · cases h
        exact Or.inr (Or.inl ⟨items, rfl, rfl⟩)
      · cases h
    | moment =>
      cases h
      exact Or.inr (Or.inr ⟨rfl, rfl⟩)
    | _ => cases h

/-! ## Tables -/

section Tables

variable {r : Reader} {stated? : List Char → Option (List Statement)}
  {given : List (List String × Item)} {root t : Entries} {usual wanted : List String} {x : Place}
  {i : Item}

/-- Of items that stand for keys, the one at the place of a key stands for it. -/
theorem lookup_zip {keys : List String} {items : List Item} {key : String} {index : Nat}
    (hkeys : keys.Nodup) (hkey : keys[index]? = some key) :
    (keys.zip items).lookup key = items[index]? := by
  induction keys generalizing items index with
  | nil => cases hkey
  | cons k keys ih =>
    obtain ⟨hk, hkeys⟩ := List.nodup_cons.1 hkeys
    cases items with
    | nil => rfl
    | cons i items =>
      cases index with
      | zero =>
        cases hkey
        rw [List.zip_cons_cons, List.lookup_cons_self]
        rfl
      | succ index =>
        rw [List.getElem?_cons_succ] at hkey
        have hne : (key == k) = false := by
          rw [beq_eq_false_iff_ne]
          rintro rfl
          exact hk (List.mem_of_getElem? hkey)
        rw [List.zip_cons_cons, List.lookup_cons, hne]
        exact ih hkeys hkey

theorem at?_singleton (root : Entries) (table : String) :
    (Item.table .stated root).at? [table] = root.lookup table := by
  rw [Item.at?_table (by decide)]
  cases root.lookup table with
  | none => rfl
  | some i => exact Item.at?_nil i

theorem at?_pair (root : Entries) (table key : String) :
    (Item.table .stated root).at? [table, key] =
      (root.lookup table).bind fun i => i.at? [key] :=
  Item.at?_table (by decide)

/-- What stands in the place of a table that is taken. -/
theorem Reader.Lawful.taken_root (hr : r.Lawful stated?)
    (ht : r.tableAt? root x.table usual wanted = some t) {j : Item}
    (hj : root.lookup x.table = some j) :
    (∃ o, j = .table o t) ∨ (∃ items, j = .array items ∧ t = (usual ++ wanted).zip items) ∨
      j = .moment ∧ t = [] := by
  rw [Reader.tableAt?, hj] at ht
  exact hr.taken ht

/-- What is at the path of a key is what is under it in the table. -/
theorem lookup_of_at? (hr : r.Lawful stated?)
    (ht : r.tableAt? root x.table usual wanted = some t)
    (h : (Item.table .stated root).at? [x.table, x.key] = some i) : t.lookup x.key = some i := by
  rw [at?_pair] at h
  obtain ⟨j, hj, hji⟩ := Option.bind_eq_some_iff.1 h
  obtain ⟨o, rfl⟩ | ⟨items, rfl, -⟩ | ⟨rfl, -⟩ := hr.taken_root ht hj
  · by_cases ho : o = .braced
    · rw [Item.at?, if_pos ho] at hji
      cases hji
    · rw [Item.at?_table ho] at hji
      obtain ⟨k, hk, hki⟩ := Option.bind_eq_some_iff.1 hji
      rw [Item.at?_nil] at hki
      cases hki
      exact hk
  · cases hji
  · cases hji

/-- What is given at a place is under the key, unless an array of tables is. -/
theorem lookup_of_givenAt (hr : r.Lawful stated?) (htells : Tells root given)
    (ht : r.tableAt? root x.table usual wanted = some t) (hkeys : (usual ++ wanted).Nodup)
    (hkey : (usual ++ wanted)[x.index]? = some x.key) (h : GivenAt given x i) :
    t.lookup x.key = some i ∨ ∃ earlier last, t.lookup x.key = some (.tables earlier last) := by
  -- In the place of the table itself no array of tables can stand.
  have hroot : ∀ {v}, ([x.table], v) ∈ given → root.lookup x.table = some v := by
    intro v hv
    rcases htells.found hv with hfound | ⟨earlier, last, hbarred⟩
    · rwa [at?_singleton] at hfound
    · rw [at?_singleton] at hbarred
      obtain ⟨o, h⟩ | ⟨items, h, -⟩ | ⟨h, -⟩ := hr.taken_root ht hbarred
      · cases h
      · cases h
      · cases h
  cases h with
  | named h =>
    rcases htells.found h with hfound | ⟨earlier, last, hbarred⟩
    · exact Or.inl (lookup_of_at? hr ht hfound)
    · exact Or.inr ⟨earlier, last, lookup_of_at? hr ht hbarred⟩
  | braced h hi =>
    obtain ⟨o, h⟩ | ⟨items, h, -⟩ | ⟨h, -⟩ := hr.taken_root ht (hroot h)
    · cases h
      exact Or.inl hi
    · cases h
    · cases h
  | listed h hi =>
    obtain ⟨o, h⟩ | ⟨items, h, rfl⟩ | ⟨h, -⟩ := hr.taken_root ht (hroot h)
    · cases h
    · cases h
      exact Or.inl ((lookup_zip hkeys hkey).trans hi)
    · cases h

/-- A value under a key is given at its place. -/
theorem givenAt_of_lookup (hr : r.Lawful stated?) (htells : Tells root given)
    (ht : r.tableAt? root x.table usual wanted = some t) (hkeys : (usual ++ wanted).Nodup)
    (hkey : (usual ++ wanted)[x.index]? = some x.key) (hi : i.IsValue)
    (h : t.lookup x.key = some i) : GivenAt given x i := by
  cases hroot : root.lookup x.table with
  | none =>
    rw [Reader.tableAt?, hroot] at ht
    cases ht
    cases h
  | some j =>
    obtain ⟨o, rfl⟩ | ⟨items, rfl, rfl⟩ | ⟨rfl, rfl⟩ := hr.taken_root ht hroot
    · by_cases ho : o = .braced
      · subst ho
        refine .braced (htells.sound rfl ?_) h
        rw [at?_singleton, hroot]
      · refine .named (htells.sound hi ?_)
        rw [at?_pair, hroot, Option.bind_some, Item.at?_table ho, h, Option.bind_some,
          Item.at?_nil]
    · rw [lookup_zip hkeys hkey] at h
      refine .listed (htells.sound trivial ?_) h
      rw [at?_singleton, hroot]
    · cases h

/-- A setting that is read from its table is decided by what is given at its place. -/
theorem decided_of_valueOr? {α : Type} {read : Item → Option α} {default value : α}
    (hread : ReadsValues read) (hr : r.Lawful stated?) (htells : Tells root given)
    (ht : r.tableAt? root x.table usual wanted = some t) (hkeys : (usual ++ wanted).Nodup)
    (hkey : (usual ++ wanted)[x.index]? = some x.key)
    (h : valueOr? read t x.key default = some value) :
    Decided (GivenAt given x) read default value := by
  refine ⟨?_, ?_⟩
  · intro i hi
    rcases lookup_of_givenAt hr htells ht hkeys hkey hi with hlookup | ⟨earlier, last, hlookup⟩
    · rwa [valueOr?, hlookup] at h
    · rw [valueOr?, hlookup] at h
      exact (hread _ _ h).elim
  · intro hnone
    rw [valueOr?] at h
    split at h
    · exact (Option.some.inj h).symm
    · next i hlookup =>
      have hi : i.IsValue := hread i value h
      exact (hnone i (givenAt_of_lookup hr htells ht hkeys hkey hi hlookup)).elim

end Tables

/-! ## Profiles -/

section Profiles

variable {r : Reader} {stated? : List Char → Option (List Statement)}
  {given given' : List (List String × Item)} {root root' : Entries} {p p' : Profile} {name : String}

theorem decided_serverPart {server : ServerPart} (hr : r.Lawful stated?) (htells : Tells root given)
    (h : partOr? (ServerPart.read? r) root "server" .usual = some server) :
    Decided (GivenAt given ⟨"server", "host", 0⟩) text? "0.0.0.0" server.host ∧
      Decided (GivenAt given ⟨"server", "port", 1⟩) (natural? portCount) 8124 server.port ∧
      Decided (GivenAt given ⟨"server", "max_connections", 2⟩) (natural? wordSize) 1024
        server.maxConnections := by
  rw [Reader.serverPart_eq] at h
  obtain ⟨t, ht, h⟩ := Option.bind_eq_some_iff.1 h
  obtain ⟨host, hhost, h⟩ := Option.bind_eq_some_iff.1 h
  obtain ⟨port, hport, h⟩ := Option.bind_eq_some_iff.1 h
  obtain ⟨maxConnections, hmax, h⟩ := Option.bind_eq_some_iff.1 h
  cases h
  refine ⟨?_, ?_, ?_⟩
  · exact decided_of_valueOr? readsValues_text? hr htells ht (by decide) rfl hhost
  · exact decided_of_valueOr? (readsValues_natural? _) hr htells ht (by decide) rfl hport
  · exact decided_of_valueOr? (readsValues_natural? _) hr htells ht (by decide) rfl hmax

theorem decided_canvasPart {canvas : CanvasPart} (hr : r.Lawful stated?) (htells : Tells root given)
    (h : partOr? (CanvasPart.read? r) root "canvas" .usual = some canvas) :
    Decided (GivenAt given ⟨"canvas", "cols", 0⟩) (natural? wordSize) 30 canvas.cols ∧
      Decided (GivenAt given ⟨"canvas", "rows", 1⟩) (natural? wordSize) 30 canvas.rows ∧
      Decided (GivenAt given ⟨"canvas", "brush_glyph", 2⟩) text? "*" canvas.glyph ∧
      Decided (GivenAt given ⟨"canvas", "start_col", 3⟩) start? none canvas.startCol ∧
      Decided (GivenAt given ⟨"canvas", "start_row", 4⟩) start? none canvas.startRow := by
  rw [Reader.canvasPart_eq] at h
  obtain ⟨t, ht, h⟩ := Option.bind_eq_some_iff.1 h
  obtain ⟨cols, hcols, h⟩ := Option.bind_eq_some_iff.1 h
  obtain ⟨rows, hrows, h⟩ := Option.bind_eq_some_iff.1 h
  obtain ⟨glyph, hglyph, h⟩ := Option.bind_eq_some_iff.1 h
  obtain ⟨startCol, hstartCol, h⟩ := Option.bind_eq_some_iff.1 h
  obtain ⟨startRow, hstartRow, h⟩ := Option.bind_eq_some_iff.1 h
  cases h
  rw [given?_eq_valueOr?] at hstartCol hstartRow
  have hword := readsValues_natural? wordSize
  refine ⟨?_, ?_, ?_, ?_, ?_⟩
  · exact decided_of_valueOr? hword hr htells ht (by decide) rfl hcols
  · exact decided_of_valueOr? hword hr htells ht (by decide) rfl hrows
  · exact decided_of_valueOr? readsValues_text? hr htells ht (by decide) rfl hglyph
  · exact decided_of_valueOr? readsValues_start? hr htells ht (by decide) rfl hstartCol
  · exact decided_of_valueOr? readsValues_start? hr htells ht (by decide) rfl hstartRow

theorem decided_loggingPart {logging : LoggingPart} (hr : r.Lawful stated?)
    (htells : Tells root given)
    (h : partOr? (LoggingPart.read? r) root "logging" .usual = some logging) :
    Decided (GivenAt given ⟨"logging", "level", 0⟩) text? "info" logging.level := by
  rw [Reader.loggingPart_eq] at h
  obtain ⟨t, ht, h⟩ := Option.bind_eq_some_iff.1 h
  obtain ⟨level, hlevel, h⟩ := Option.bind_eq_some_iff.1 h
  cases h
  exact decided_of_valueOr? readsValues_text? hr htells ht (by decide) rfl hlevel

theorem follows_of_profile? (hr : r.Lawful stated?) (htells : Tells root given)
    (h : r.profile? root = some p) : Follows given p := by
  obtain ⟨server, hserver, h⟩ := Option.bind_eq_some_iff.1 h
  obtain ⟨canvas, hcanvas, h⟩ := Option.bind_eq_some_iff.1 h
  obtain ⟨logging, hlogging, h⟩ := Option.bind_eq_some_iff.1 h
  cases h
  obtain ⟨hhost, hport, hmax⟩ := decided_serverPart hr htells hserver
  obtain ⟨hcols, hrows, hglyph, hstartCol, hstartRow⟩ := decided_canvasPart hr htells hcanvas
  exact ⟨hhost, hport, hmax, hcols, hrows, hglyph, hstartCol, hstartRow,
    decided_loggingPart hr htells hlogging⟩

/-- What is given decides the value. -/
theorem Decided.unique {α : Type} {given given' : Item → Prop} {read : Item → Option α}
    {usual value value' : α} (h : Decided given read usual value)
    (h' : Decided given' read usual value') (hsame : ∀ i, given i ↔ given' i) : value' = value := by
  by_cases hgiven : ∃ i, given i
  · obtain ⟨i, hi⟩ := hgiven
    exact Option.some.inj ((h'.of_given ((hsame i).1 hi)).symm.trans (h.of_given hi))
  · have hnone : ∀ i, ¬ given i := not_exists.1 hgiven
    have hnone' : ∀ i, ¬ given' i := fun i hi => hnone i ((hsame i).2 hi)
    rw [h'.of_not_given hnone', h.of_not_given hnone]

/-- Documents that give the same at the nine places give the same settings. -/
theorem Follows.unique (h : Follows given p) (h' : Follows given' p')
    (hsame : ∀ x ∈ places, ∀ i, GivenAt given x i ↔ GivenAt given' x i) : p' = p := by
  have hhost := h.host.unique h'.host (hsame _ (by simp [places]))
  have hport := h.port.unique h'.port (hsame _ (by simp [places]))
  have hmax := h.maxConnections.unique h'.maxConnections (hsame _ (by simp [places]))
  have hcols := h.cols.unique h'.cols (hsame _ (by simp [places]))
  have hrows := h.rows.unique h'.rows (hsame _ (by simp [places]))
  have hglyph := h.glyph.unique h'.glyph (hsame _ (by simp [places]))
  have hstartCol := h.startCol.unique h'.startCol (hsame _ (by simp [places]))
  have hstartRow := h.startRow.unique h'.startRow (hsame _ (by simp [places]))
  have hlogLevel := h.logLevel.unique h'.logLevel (hsame _ (by simp [places]))
  cases p
  cases p'
  simp only at hhost hport hmax hcols hrows hglyph hstartCol hstartRow hlogLevel
  simp only [hhost, hport, hmax, hcols, hrows, hglyph, hstartCol, hstartRow, hlogLevel]

/-- An empty table says no more than none. -/
theorem tableAt?_of_opened (hr : r.Lawful stated?) (hag : AgreeBesides name root root')
    (hname : root.lookup name = none) (hname' : root'.lookup name = some (.table .stated []))
    (table : String) (usual wanted : List String) :
    r.tableAt? root' table usual wanted = r.tableAt? root table usual wanted := by
  by_cases htable : table = name
  · subst htable
    rw [Reader.tableAt?, Reader.tableAt?, hname, hname']
    exact hr.table
  · rw [Reader.tableAt?, Reader.tableAt?, hag table htable]

theorem profile?_of_opened (hr : r.Lawful stated?) (hag : AgreeBesides name root root')
    (hname : root.lookup name = none) (hname' : root'.lookup name = some (.table .stated [])) :
    r.profile? root' = r.profile? root := by
  simp only [Reader.profile?, Reader.serverPart_eq, Reader.canvasPart_eq, Reader.loggingPart_eq,
    tableAt?_of_opened hr hag hname hname']

/-- A text that states nothing gives the usual profile. -/
theorem ofText?_of_silent (hr : r.Lawful stated?) {s : List Char} (h : stated? s = some []) :
    r.ofText? s = some .usual := by
  rw [Reader.ofText?, hr.silent h]
  rfl

/-- **What a file decides**, for all readers of which this much can be relied on. If a text is
usable, then each of the nine settings is what the text gives at its place, or else the usual value.
Two usable texts that give the same at the nine places give the same settings. The header of a table
that a text leaves out makes no difference. For all choices the empty text gives the same settings
as no file, and so does every file in which nothing is stated. -/
theorem Reader.Lawful.decides {r : Readers} (hr : r.file.Lawful stated?) :
    (∀ {s p}, r.file.ofText? s = some p →
      ∃ ss, stated? s = some ss ∧ Follows (assignments [] ss) p) ∧
    (∀ {s s' ss ss' p p'}, stated? s = some ss → stated? s' = some ss' →
      (∀ x ∈ places, ∀ i, GivenAt (assignments [] ss) x i ↔ GivenAt (assignments [] ss') x i) →
      r.file.ofText? s = some p → r.file.ofText? s' = some p' → p' = p) ∧
    (∀ {s s' a b root} {name : String}, stated? s = some (a ++ b) →
      stated? s' = some (a ++ .table ⟨[], name⟩ :: b) → (∀ st ∈ b.head?, st.IsHeader) →
      r.file.document? s = some root → root.lookup name = none →
      r.file.ofText? s' = r.file.ofText? s) ∧
    (∀ c, (r.file.ofText? []).map (merge c) = some (merge c .usual)) ∧
    (∀ {readFile c path bytes text}, c.config = some path → readFile path = .ok bytes →
      Text.Utf8.strict? bytes = some text → stated? text = some [] →
      r.settingsOf readFile c = r.settingsOf readFile { c with config := none }) := by
  have hfollows : ∀ {s p}, r.file.ofText? s = some p →
      ∃ ss, stated? s = some ss ∧ Follows (assignments [] ss) p := by
    intro s p h
    obtain ⟨root, hroot, hp⟩ := Option.bind_eq_some_iff.1 h
    obtain ⟨ss, hss, htells⟩ := hr.tells hroot
    exact ⟨ss, hss, follows_of_profile? hr htells hp⟩
  refine ⟨hfollows, ?_, ?_, ?_, ?_⟩
  · intro s s' ss ss' p p' hss hss' hsame h h'
    obtain ⟨_, hs, hfollows₁⟩ := hfollows h
    obtain ⟨_, hs', hfollows₂⟩ := hfollows h'
    cases hss.symm.trans hs
    cases hss'.symm.trans hs'
    exact hfollows₁.unique hfollows₂ hsame
  · intro s s' a b root name hs hs' hb hroot hname
    obtain ⟨root', hroot', hag, hname'⟩ := hr.opened hs hs' hb hroot hname
    rw [Reader.ofText?, Reader.ofText?, hroot, hroot', Option.bind_some, Option.bind_some]
    exact profile?_of_opened hr hag hname hname'
  · intro c
    rw [ofText?_of_silent hr hr.nil, Option.map_some]
  · intro readFile c path bytes text hpath hfile htext hss
    have hprofile : r.profileOf readFile c = .ok .usual := by
      rw [Readers.profileOf, hpath]
      simp only [hfile, htext, ofText?_of_silent hr hss]
    rw [Readers.settingsOf, Readers.settingsOf, hprofile]
    rfl

/-- **What a file decides.** If a text is usable, then each of the nine settings is what the text
gives at its place, or else the usual value. Two usable texts that give the same at the nine places
give the same settings, in whatever order and whatever else they say. The header of a table that a
text leaves out, put between two of its tables or at its end, makes no difference, to whether the
text is usable either. And for all choices the empty text gives the same settings as no file, and so
does every file in which nothing is said. -/
theorem ofText?_exact :
    (∀ {s p}, ofText? s = some p → ∃ ss, statements? s = some ss ∧ Follows (assignments [] ss) p) ∧
    (∀ {s s' ss ss' p p'}, statements? s = some ss → statements? s' = some ss' →
      (∀ x ∈ places, ∀ i, GivenAt (assignments [] ss) x i ↔ GivenAt (assignments [] ss') x i) →
      ofText? s = some p → ofText? s' = some p' → p' = p) ∧
    (∀ {s s' a b root} {name : String}, statements? s = some (a ++ b) →
      statements? s' = some (a ++ .table ⟨[], name⟩ :: b) → (∀ st ∈ b.head?, st.IsHeader) →
      parse? s = some root → root.lookup name = none → ofText? s' = ofText? s) ∧
    (∀ c, (ofText? []).map (merge c) = some (merge c .usual)) ∧
    (∀ {readFile c path bytes text}, c.config = some path → readFile path = .ok bytes →
      Text.Utf8.strict? bytes = some text → statements? text = some [] →
      settingsOf readFile c = settingsOf readFile { c with config := none }) :=
  Reader.Lawful.decides (r := Readers.usual) Reader.lawful_toml

/-- A port, given by a header and a key, by a dotted key behind a key that is not known, and before
an empty table. -/
theorem ofText?_exact_port :
    let c : Choices := { config := some "a.toml", cols := some 40 }
    let readFile (_ : String) : Except FileFault (List UInt8) := .ok []
    (∃ ss, statements? "[server]\nport = 9000\n".toList = some ss ∧
        Follows (assignments [] ss) { port := 9000 }) ∧
      (∃ p p', ofText? "[server]\nport = 9000\n".toList = some p ∧
        ofText? "x = 1\nserver.port = 9000\n".toList = some p' ∧ p' = p) ∧
      ofText? "[server]\nport = 9000\n[canvas]\n".toList =
        ofText? "[server]\nport = 9000\n".toList ∧
      (ofText? []).map (merge c) = some (merge c .usual) ∧
      settingsOf readFile c = settingsOf readFile { c with config := none } := by
  obtain ⟨hfollows, hsame, hopened, hempty, hfile⟩ := ofText?_exact
  have hss : statements? "[server]\nport = 9000\n".toList =
      some [.table ⟨[], "server"⟩, .assign ⟨[], "port"⟩ (.integer 9000)] := by cbv
  have hdotted : statements? "x = 1\nserver.port = 9000\n".toList =
      some [.assign ⟨[], "x"⟩ (.integer 1), .assign ⟨["server"], "port"⟩ (.integer 9000)] := by cbv
  have hcanvas : statements? "[server]\nport = 9000\n[canvas]\n".toList =
      some ([.table ⟨[], "server"⟩, .assign ⟨[], "port"⟩ (.integer 9000)] ++
        .table ⟨[], "canvas"⟩ :: []) := by cbv
  have hroot : parse? "[server]\nport = 9000\n".toList =
      some [("server", .table .stated [("port", .integer 9000)])] := by cbv
  have hp : ofText? "[server]\nport = 9000\n".toList = some { port := 9000 } := by decide +kernel
  have hp' : ofText? "x = 1\nserver.port = 9000\n".toList = some { port := 9000 } := by
    decide +kernel
  have hunknown : ∀ x ∈ places, ["x"] ≠ [x.table, x.key] ∧ ["x"] ≠ [x.table] := by decide
  refine ⟨hfollows hp, ⟨_, _, hp, hp', ?_⟩, ?_, hempty _, ?_⟩
  · refine hsame hss hdotted ?_ hp hp'
    intro x hx i
    exact (givenAt_cons_iff (hunknown x hx).1 (hunknown x hx).2).symm
  · exact hopened (a := [.table ⟨[], "server"⟩, .assign ⟨[], "port"⟩ (.integer 9000)]) (b := [])
      hss hcanvas (by simp) hroot rfl
  · exact hfile rfl rfl rfl rfl

/-- In an array that stands for a table, an item is given to a key that is nowhere named. -/
theorem ofText?_array_names_no_key :
    ∃ ss p, statements? "server = [\"h\"]".toList = some ss ∧
      ofText? "server = [\"h\"]".toList = some p ∧
      (∀ i, (["server", "host"], i) ∉ assignments [] ss) ∧
      (∀ t, (["server"], .table .braced t) ∉ assignments [] ss) ∧ p.host ≠ "0.0.0.0" := by
  have hss : statements? "server = [\"h\"]".toList =
      some [.assign ⟨[], "server"⟩ (.array [.text "h"])] := by cbv
  have hp : ofText? "server = [\"h\"]".toList = some { host := "h" } := by decide +kernel
  refine ⟨_, _, hss, hp, ?_, ?_, by decide⟩
  · intro i
    simp [assignments, Statement.gives?]
  · intro t
    simp [assignments, Statement.gives?]

end Profiles

end Plotter.Settings.File
