import Mathlib.Logic.Basic
import Plotter.Toml.Document

/-!
# What a document holds

The values in the tree of a document are those that its statements give to keys, each at the path of
the table that is open and the key (`assignments`), and no others (`tells_of_parse?`). Headers give
nothing: they only make room for what follows.

A value is never changed or added to once it is given, so it stays at its path. This is proved of
one change to a tree, whatever the path at which it is made (`gains_alter?`), from that of each
statement (`gains_say?`), and from that of all of them by induction. The one place where values are
lost from sight is an array of tables: a path into it means its last member, and with every new
member the values of those before it are out of reach (`Barred`).
-/

namespace Plotter.Toml

/-! ## What is at a path -/

/-- An item that a key is given as its value: of tables, only those that are written in braces. -/
def Item.IsValue : Item → Prop
  | .table o _ => o = .braced
  | .tables _ _ => False
  | _ => True

/-- What is at a path from an item. A table in braces is not entered, and every path from an array of
tables leads to that array. -/
def Item.at? : Item → List String → Option Item
  | i, [] => some i
  | .tables earlier last, _ :: _ => some (.tables earlier last)
  | .table o t, key :: path =>
    if o = .braced then none else (t.lookup key).bind fun i => at? i path
  | _, _ :: _ => none

/-- What is at each path. -/
abbrev Contents := List String → Option Item

/-- An array of tables bars the path. -/
def Barred (f : Contents) (path : List String) : Prop :=
  ∃ earlier last, f path = some (.tables earlier last)

section At

variable {o : Origin} {t : Entries} {i v : Item} {key : String} {path : List String}

@[simp] theorem Item.at?_nil (i : Item) : i.at? [] = some i := by
  cases i <;> rfl

@[simp] theorem Item.at?_tables (earlier : List Entries) (last : Entries) (path : List String) :
    (Item.tables earlier last).at? path = some (.tables earlier last) := by
  cases path <;> rfl

theorem Item.at?_table (ho : o ≠ .braced) :
    (Item.table o t).at? (key :: path) = (t.lookup key).bind fun i => i.at? path := by
  rw [Item.at?, if_neg ho]

/-- Nothing is behind a value. -/
theorem Item.at?_cons_of_isValue (h : i.IsValue) : i.at? (key :: path) = none := by
  cases i with
  | table o t =>
    have ho : o = .braced := h
    rw [Item.at?, if_pos ho]
  | tables earlier last => exact h.elim
  | _ => rfl

/-- A path through an array of tables leads to no value. -/
theorem Item.at?_tables_ne {earlier : List Entries} {last : Entries} (hv : v.IsValue) :
    (Item.tables earlier last).at? path ≠ some v := by
  rw [at?_tables]
  rintro h
  rw [← Option.some.inj h] at hv
  exact hv

/-- A table that is not in braces is no value itself: what leads to one goes through a key. -/
theorem Item.at?_table_nil_ne (ho : o ≠ .braced) (hv : v.IsValue) :
    (Item.table o t).at? [] ≠ some v := by
  rw [at?_nil]
  intro h
  rw [← Option.some.inj h] at hv
  exact ho hv

end At

/-! ## What a change adds -/

/-- What is at the paths before and after a change that gives one value, or none: the values stay,
the one that is given is added, and so is no other. -/
structure Gains (new : Option (List String × Item)) (f g : Contents) : Prop where
  kept : ∀ {path v}, v.IsValue → f path = some v → g path = some v
  sound : ∀ {path v}, v.IsValue → g path = some v → f path = some v ∨ new = some (path, v)
  /-- What is out of reach stays so. -/
  barred : ∀ {path}, Barred f path → Barred g path
  /-- What is given is found, unless it is out of reach. -/
  given : ∀ {path v}, new = some (path, v) → g path = some v ∨ Barred g path

/-- What a change gives at a table, seen from where the path leads to that table. -/
def beneath (path : List String) (new : Option (List String × Item)) :
    Option (List String × Item) :=
  new.map fun p => (path ++ p.1, p.2)

section Gains

variable {new : Option (List String × Item)} {f g : Contents} {o o' : Origin} {t t' u : Entries}
  {i v : Item} {key : String} {path : List String}

theorem beneath_nil : beneath [] new = new := by
  cases new <;> rfl

theorem beneath_cons : beneath (key :: path) new = beneath [key] (beneath path new) := by
  cases new <;> rfl

/-- Between two tables that are not values, nothing is gained if the same is behind their keys. -/
theorem Gains.of_tables (ho : o ≠ .braced) (ho' : o' ≠ .braced) :
    Gains none (Item.table o t).at? (Item.table o' t).at? := by
  have hcons : ∀ key path, (Item.table o' t).at? (key :: path) =
      (Item.table o t).at? (key :: path) := by
    intro key path
    rw [Item.at?_table ho, Item.at?_table ho']
  refine ⟨?_, ?_, ?_, by simp⟩
  · intro path v hv h
    cases path with
    | nil => exact (Item.at?_table_nil_ne ho hv h).elim
    | cons key path => rwa [hcons]
  · intro path v hv h
    cases path with
    | nil => exact (Item.at?_table_nil_ne ho' hv h).elim
    | cons key path => exact Or.inl (by rwa [← hcons])
  · rintro path ⟨earlier, last, h⟩
    cases path with
    | nil => simp at h
    | cons key path => exact ⟨earlier, last, by rwa [hcons]⟩

/-- Whatever changes in the last member of an array of tables, every path leads to that array. -/
theorem Gains.of_tables_tables {earlier earlier' : List Entries} {last last' : Entries} :
    Gains new (Item.tables earlier last).at? (Item.tables earlier' last').at? := by
  have hbarred : ∀ path, Barred (Item.tables earlier' last').at? path := fun path =>
    ⟨earlier', last', Item.at?_tables _ _ _⟩
  refine ⟨?_, ?_, fun _ => hbarred _, fun _ => Or.inr (hbarred _)⟩
  · intro path v hv h
    exact (Item.at?_tables_ne hv h).elim
  · intro path v hv h
    exact (Item.at?_tables_ne hv h).elim

/-- From nothing, no more is to be shown than that what is there has been given, and is found. -/
theorem Gains.of_nothing
    (hsound : ∀ path v, v.IsValue → g path = some v → new = some (path, v))
    (hgiven : ∀ path v, new = some (path, v) → g path = some v ∨ Barred g path) :
    Gains new (fun _ => none) g := by
  refine ⟨by simp, ?_, by simp [Barred], fun hnew => hgiven _ _ hnew⟩
  intro path v hv h
  exact Or.inr (hsound path v hv h)

/-- An empty table holds no more than nothing does. -/
theorem Gains.of_empty (ho : o ≠ .braced) (h : Gains new (Item.table o []).at? g) :
    Gains new (fun _ => none) g := by
  apply Gains.of_nothing
  · intro path v hv hg
    apply (h.sound hv hg).resolve_left
    cases path with
    | nil => exact Item.at?_table_nil_ne ho hv
    | cons key path => simp [Item.at?_table ho]
  · intro path v hnew
    exact h.given hnew

/-- Nothing is behind a value, so it is all that is gained by it. -/
theorem Gains.of_value (hv : v.IsValue) : Gains (some ([], v)) (fun _ => none) v.at? := by
  apply Gains.of_nothing
  · intro path w hw h
    cases path with
    | nil => simpa using h
    | cons key path => simp [Item.at?_cons_of_isValue hv] at h
  · intro path w h
    obtain ⟨rfl, rfl⟩ := Prod.mk.inj (Option.some.inj h)
    exact Or.inl (Item.at?_nil v)

/-- An array of tables holds no value within reach. -/
theorem Gains.of_opened {earlier : List Entries} {last : Entries} :
    Gains none (fun _ => none) (Item.tables earlier last).at? := by
  apply Gains.of_nothing
  · intro path v hv h
    exact (Item.at?_tables_ne hv h).elim
  · simp

/-- What is gained at an item under a key is gained, behind that key, at the table. -/
theorem Gains.put (new : Option (List String × Item)) (ho : o ≠ .braced)
    (h : Gains new (fun path => (t.lookup key).bind fun i => i.at? path) i.at?) :
    Gains (beneath [key] new) (Item.table o t).at? (Item.table o (t.put key i)).at? := by
  have hself : ∀ path, (Item.table o (t.put key i)).at? (key :: path) = i.at? path := by
    intro path
    rw [Item.at?_table ho, Entries.lookup_put_self, Option.bind_some]
  have hself' : ∀ path, (Item.table o t).at? (key :: path) =
      (t.lookup key).bind fun i => i.at? path := fun path => Item.at?_table ho
  have hother : ∀ k path, k ≠ key →
      (Item.table o (t.put key i)).at? (k :: path) = (Item.table o t).at? (k :: path) := by
    intro k path hk
    rw [Item.at?_table ho, Item.at?_table ho, Entries.lookup_put_of_ne hk]
  refine ⟨?_, ?_, ?_, ?_⟩
  · intro path v hv hf
    cases path with
    | nil => exact (Item.at?_table_nil_ne ho hv hf).elim
    | cons k path =>
      by_cases hk : k = key
      · subst hk
        rw [hself' path] at hf
        rw [hself path]
        exact h.kept hv hf
      · rwa [hother k path hk]
  · intro path v hv hg
    cases path with
    | nil => exact (Item.at?_table_nil_ne ho hv hg).elim
    | cons k path =>
      by_cases hk : k = key
      · subst hk
        rw [hself path] at hg
        rw [hself' path]
        refine (h.sound hv hg).imp id fun hnew => ?_
        rw [hnew]
        rfl
      · exact Or.inl (by rwa [← hother k path hk])
  · rintro path ⟨earlier, last, hf⟩
    cases path with
    | nil => simp at hf
    | cons k path =>
      by_cases hk : k = key
      · subst hk
        rw [hself' path] at hf
        obtain ⟨earlier', last', hg⟩ := h.barred ⟨earlier, last, hf⟩
        exact ⟨earlier', last', by rwa [hself path]⟩
      · exact ⟨earlier, last, by rwa [hother k path hk]⟩
  · intro path v hnew
    obtain ⟨p, hp, hpv⟩ := Option.map_eq_some_iff.1 hnew
    obtain ⟨rfl, rfl⟩ := Prod.mk.inj hpv
    rcases h.given hp with hg | ⟨earlier, last, hg⟩
    · exact Or.inl ((hself p.1).trans hg)
    · exact Or.inr ⟨earlier, last, (hself p.1).trans hg⟩

end Gains

/-! ## What a statement adds -/

section Alter

variable {made : Origin} {enter : Origin → Bool}
  {change : Origin → Entries → Option Entries} {o : Origin} {t t' : Entries} {path : List String}

/-- What a change gains at the table to which it is made is gained, behind the path of that table,
at the table from which the path is gone. -/
theorem gains_alter? (new : Option (List String × Item)) (hmade : made ≠ .braced)
    (henter : ∀ o, enter o = true → o ≠ .braced)
    (hchange : ∀ {o t t'}, o ≠ .braced → change o t = some t' →
      Gains new (Item.table o t).at? (Item.table o t').at?)
    (ho : o ≠ .braced) (h : Entries.alter? made enter change path o t = some t') :
    Gains (beneath path new) (Item.table o t).at? (Item.table o t').at? := by
  induction path generalizing o t t' with
  | nil =>
    rw [Entries.alter?] at h
    rw [beneath_nil]
    exact hchange ho h
  | cons key path ih =>
    rw [beneath_cons]
    rw [Entries.alter?] at h
    split at h
    · next hkey =>
      obtain ⟨s, hs, rfl⟩ := Option.map_eq_some_iff.1 h
      apply Gains.put (beneath path new) ho
      simp only [hkey, Option.bind_none]
      exact (ih hmade hs).of_empty hmade
    · next o' s hkey =>
      split at h
      · next hin =>
        obtain ⟨s', hs', rfl⟩ := Option.map_eq_some_iff.1 h
        apply Gains.put (beneath path new) ho
        simp only [hkey, Option.bind_some]
        exact ih (henter o' hin) hs'
      · cases h
    · next earlier last hkey =>
      obtain ⟨s, hs, rfl⟩ := Option.map_eq_some_iff.1 h
      apply Gains.put (beneath path new) ho
      simp only [hkey, Option.bind_some]
      exact Gains.of_tables_tables
    · cases h

/-- The same from the document itself, along the path of a header. -/
theorem gains_alterHeaded? (new : Option (List String × Item))
    (hchange : ∀ {o t t'}, o ≠ .braced → change o t = some t' →
      Gains new (Item.table o t).at? (Item.table o t').at?)
    (h : t.alterHeaded? path change = some t') :
    Gains (beneath path new) (Item.table .stated t).at? (Item.table .stated t').at? := by
  refine gains_alter? new ?_ ?_ hchange ?_ h
  · intro himplied
    cases himplied
  · intro o hin
    simpa using hin
  · intro hstated
    cases hstated

end Alter

section Statements

variable {o : Origin} {t t' : Entries} {path : List String} {key : String} {v : Item}

theorem gains_openTable? (h : t.openTable? path key = some t') :
    Gains none (Item.table .stated t).at? (Item.table .stated t').at? := by
  refine gains_alterHeaded? none ?_ h
  intro o s s' ho hs
  have hstated : Origin.stated ≠ .braced := by decide
  split at hs
  · next hkey =>
    cases hs
    refine Gains.put none ho ?_
    simp only [hkey, Option.bind_none]
    exact (Gains.of_tables hstated hstated).of_empty hstated
  · next u hkey =>
    cases hs
    refine Gains.put none ho ?_
    simp only [hkey, Option.bind_some]
    exact Gains.of_tables (by decide) hstated
  · cases hs

theorem gains_openMember? (h : t.openMember? path key = some t') :
    Gains none (Item.table .stated t).at? (Item.table .stated t').at? := by
  refine gains_alterHeaded? none ?_ h
  intro o s s' ho hs
  split at hs
  · next hkey =>
    cases hs
    refine Gains.put none ho ?_
    simp only [hkey, Option.bind_none]
    exact Gains.of_opened
  · next earlier last hkey =>
    cases hs
    refine Gains.put none ho ?_
    simp only [hkey, Option.bind_some]
    exact Gains.of_tables_tables
  · cases hs

theorem gains_assign? (hv : v.IsValue) (ho : o ≠ .braced)
    (h : Entries.assign? path key v o t = some t') :
    Gains (some (path ++ [key], v)) (Item.table o t).at? (Item.table o t').at? := by
  refine gains_alter? (some ([key], v)) ?_ ?_ ?_ ho h
  · intro hdotted
    cases hdotted
  · intro o hin
    rintro rfl
    cases hin
  · intro o s s' ho hs
    split at hs
    · cases hs
    · split at hs
      · cases hs
      · next hkey =>
        cases hs
        refine Gains.put (some ([], v)) ho ?_
        rw [Option.not_isSome_iff_eq_none] at hkey
        simp only [hkey, Option.bind_none]
        exact Gains.of_value hv

end Statements

/-! ## What a document gives -/

/-- The path of the table that is open behind a statement. -/
def Statement.opens (path : List String) : Statement → List String
  | .table key => key.path ++ [key.last]
  | .member key => key.path ++ [key.last]
  | .assign _ _ => path

/-- What a statement gives to a key, with the path that leads to it. -/
def Statement.gives? (path : List String) : Statement → Option (List String × Item)
  | .assign key v => some (path ++ (key.path ++ [key.last]), v)
  | _ => none

/-- What statements give to keys, each with the path that leads to it, if the table at a path is open
before them. -/
def assignments : List String → List Statement → List (List String × Item)
  | _, [] => []
  | path, st :: rest => (st.gives? path).toList ++ assignments (st.opens path) rest

/-- The items that statements give to keys are values. -/
def Valued (st : Statement) : Prop := ∀ path p, st.gives? path = some p → p.2.IsValue

/-- One more statement adds what it gives. -/
theorem gains_say? {d e : Document} {st : Statement} (hst : Valued st) (h : d.say? st = some e) :
    e.section_ = st.opens d.section_ ∧
      Gains (st.gives? d.section_) (Item.table .stated d.root).at?
        (Item.table .stated e.root).at? := by
  cases st with
  | table key =>
    obtain ⟨r, hr, rfl⟩ := Option.map_eq_some_iff.1 h
    exact ⟨rfl, gains_openTable? hr⟩
  | member key =>
    obtain ⟨r, hr, rfl⟩ := Option.map_eq_some_iff.1 h
    exact ⟨rfl, gains_openMember? hr⟩
  | assign key v =>
    obtain ⟨r, hr, rfl⟩ := Option.map_eq_some_iff.1 h
    have hv : v.IsValue := hst [] _ rfl
    exact ⟨rfl, gains_alterHeaded? _ (fun ho hs => gains_assign? hv ho hs) hr⟩

/-- The tree holds the values that are given, and no others. -/
structure Tells (root : Entries) (given : List (List String × Item)) : Prop where
  values : ∀ {p}, p ∈ given → p.2.IsValue
  sound : ∀ {path v}, v.IsValue → (Item.table .stated root).at? path = some v → (path, v) ∈ given
  /-- What is given is found, unless it is out of reach. -/
  found : ∀ {path v}, (path, v) ∈ given →
    (Item.table .stated root).at? path = some v ∨ Barred (Item.table .stated root).at? path

theorem tells_empty : Tells [] [] := by
  refine ⟨?_, ?_, ?_⟩
  · intro p hp
    cases hp
  · intro path v hv h
    cases path with
    | nil =>
      cases h
      cases hv
    | cons key path => cases h
  · intro path v h
    cases h

theorem Tells.gains {root root' : Entries} {given : List (List String × Item)}
    {new : Option (List String × Item)} (ht : Tells root given)
    (hnew : ∀ p, new = some p → p.2.IsValue)
    (h : Gains new (Item.table .stated root).at? (Item.table .stated root').at?) :
    Tells root' (given ++ new.toList) := by
  refine ⟨?_, ?_, ?_⟩
  · intro p hp
    rcases List.mem_append.1 hp with hp | hp
    · exact ht.values hp
    · exact hnew p (Option.mem_toList.1 hp)
  · intro path v hv hroot
    rcases h.sound hv hroot with hroot | heq
    · exact List.mem_append_left _ (ht.sound hv hroot)
    · exact List.mem_append_right _ (Option.mem_toList.2 heq)
  · intro path v hp
    rcases List.mem_append.1 hp with hp | hp
    · exact (ht.found hp).imp (h.kept (ht.values hp)) h.barred
    · exact h.given (Option.mem_toList.1 hp)

/-- Every further statement adds what it gives. -/
theorem tells_of_foldlM {d e : Document} {given : List (List String × Item)} {ss : List Statement}
    (hss : ∀ st ∈ ss, Valued st) (ht : Tells d.root given) (h : ss.foldlM Document.say? d = some e) :
    Tells e.root (given ++ assignments d.section_ ss) := by
  induction ss generalizing d given with
  | nil =>
    cases h
    rwa [assignments, List.append_nil]
  | cons st rest ih =>
    rw [List.foldlM_cons] at h
    obtain ⟨d', hd', h⟩ := Option.bind_eq_some_iff.1 h
    have hst : Valued st := hss st List.mem_cons_self
    obtain ⟨hopen, hgains⟩ := gains_say? hst hd'
    rw [assignments, ← List.append_assoc, ← hopen]
    exact ih (fun st' h' => hss st' (List.mem_cons_of_mem _ h')) (ht.gains (hst d.section_) hgains) h

/-! ## What is read -/

/-- A reader that reads values only. -/
def Reader.Sound (read : Reader) : Prop := ∀ {s i rest}, read s = some (i, rest) → i.IsValue

theorem Item.isValue_of_ofRun? {run : List Char} {i : Item} (h : Item.ofRun? run = some i) :
    i.IsValue := by
  unfold Item.ofRun? at h
  grind [Item.IsValue]

theorem sound_readScalar? : Reader.Sound readScalar? := by
  intro s i rest h
  unfold readScalar? at h
  split at h
  · obtain ⟨r, -, hr⟩ := Option.map_eq_some_iff.1 h
    cases hr
    trivial
  · obtain ⟨r, -, hr⟩ := Option.map_eq_some_iff.1 h
    cases hr
    trivial
  · obtain ⟨j, hj, hr⟩ := Option.map_eq_some_iff.1 h
    cases hr
    exact Item.isValue_of_ofRun? hj

section Nested

variable {value : Reader} {left : Nat}

/-- What is read as an array is one, whatever its items are. -/
theorem sound_readArray? {done : List Item} : Reader.Sound (readArray? value done left) := by
  intro s i rest h
  induction left generalizing done s with
  | zero => cases h
  | succ left ih =>
    rw [readArray?] at h
    obtain ⟨t, -, h⟩ := Option.bind_eq_some_iff.1 h
    split at h
    · cases h
      trivial
    · obtain ⟨⟨v, more⟩, -, h⟩ := Option.bind_eq_some_iff.1 h
      obtain ⟨u, -, h⟩ := Option.bind_eq_some_iff.1 h
      split at h
      · exact ih h
      · cases h
        trivial
      · cases h

/-- What is read as a table in braces is one, whatever its entries are. -/
theorem sound_readBraced? {done : Entries} : Reader.Sound (readBraced? value done left) := by
  intro s i rest h
  induction left generalizing done s with
  | zero => cases h
  | succ left ih =>
    rw [readBraced?] at h
    obtain ⟨⟨key, more⟩, -, h⟩ := Option.bind_eq_some_iff.1 h
    obtain ⟨t, -, h⟩ := Option.bind_eq_some_iff.1 h
    obtain ⟨⟨v, more'⟩, -, h⟩ := Option.bind_eq_some_iff.1 h
    obtain ⟨done', -, h⟩ := Option.bind_eq_some_iff.1 h
    split at h
    · exact ih h
    · cases h
      rfl
    · cases h

theorem sound_readTable? : Reader.Sound (readTable? value) := by
  intro s i rest h
  unfold readTable? at h
  split at h
  · cases h
    rfl
  · exact sound_readBraced? h

end Nested

theorem sound_readWithin? (depth : Nat) : Reader.Sound (readWithin? depth) := by
  intro s i rest h
  cases depth with
  | zero =>
    unfold readWithin? at h
    split at h
    · cases h
    · cases h
    · exact sound_readScalar? h
  | succ depth =>
    unfold readWithin? at h
    split at h
    · exact sound_readArray? h
    · exact sound_readTable? h
    · exact sound_readScalar? h

theorem valued_of_readHeader? {s rest : List Char} {st : Statement}
    (h : readHeader? s = some (st, rest)) : Valued st := by
  intro path p hp
  unfold readHeader? at h
  split at h
  · obtain ⟨⟨key, more⟩, -, h⟩ := Option.bind_eq_some_iff.1 h
    obtain ⟨t, -, h⟩ := Option.bind_eq_some_iff.1 h
    obtain ⟨u, -, h⟩ := Option.bind_eq_some_iff.1 h
    obtain ⟨w, -, h⟩ := Option.bind_eq_some_iff.1 h
    cases h
    cases hp
  · obtain ⟨⟨key, more⟩, -, h⟩ := Option.bind_eq_some_iff.1 h
    obtain ⟨t, -, h⟩ := Option.bind_eq_some_iff.1 h
    obtain ⟨u, -, h⟩ := Option.bind_eq_some_iff.1 h
    cases h
    cases hp

theorem valued_of_readAssignment? {s rest : List Char} {st : Statement}
    (h : readAssignment? s = some (st, rest)) : Valued st := by
  intro path p hp
  obtain ⟨⟨key, more⟩, -, h⟩ := Option.bind_eq_some_iff.1 h
  obtain ⟨t, -, h⟩ := Option.bind_eq_some_iff.1 h
  obtain ⟨⟨v, more'⟩, hv, h⟩ := Option.bind_eq_some_iff.1 h
  obtain ⟨u, -, h⟩ := Option.bind_eq_some_iff.1 h
  cases h
  cases hp
  exact sound_readWithin? maxDepth hv

theorem valued_of_readStatements? {done ss : List Statement} {left : Nat} {s : List Char}
    (hdone : ∀ st ∈ done, Valued st) (h : readStatements? done left s = some ss) :
    ∀ st ∈ ss, Valued st := by
  induction left generalizing done s with
  | zero => cases h
  | succ left ih =>
    rw [readStatements?] at h
    split at h
    · cases h
      simpa using hdone
    · split at h
      · next hst => exact ih (List.forall_mem_cons.2 ⟨valued_of_readHeader? hst, hdone⟩) h
      · cases h
    · split at h
      · split at h
        · exact ih hdone h
        · cases h
      · split at h
        · next hst => exact ih (List.forall_mem_cons.2 ⟨valued_of_readAssignment? hst, hdone⟩) h
        · cases h

/-- The tree of a text holds what its statements give to keys. -/
theorem tells_of_parse? {s : List Char} {ss : List Statement} {root : Entries}
    (hss : statements? s = some ss) (h : parse? s = some root) : Tells root (assignments [] ss) := by
  rw [parse?, hss, Option.bind_eq_bind, Option.bind_some] at h
  obtain ⟨d, hd, hroot⟩ := Option.bind_eq_some_iff.1 h
  cases hroot
  have hvalued : ∀ st ∈ ss, Valued st := valued_of_readStatements? (by simp) hss
  have hempty : Tells Document.empty.root [] := tells_empty
  exact tells_of_foldlM hvalued hempty hd

end Plotter.Toml
