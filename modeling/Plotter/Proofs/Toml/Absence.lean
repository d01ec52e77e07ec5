import Mathlib.Logic.Basic
import Plotter.Toml.Document

/-!
# A name that a document leaves out

A table may be opened for a name that a document leaves out, by an empty header between two of its
tables or at its end, and nothing else is different (`parse?_of_opened`).

The reason is that a statement looks at one name of the document only, and puts something under it
if it goes through at all (`touches_say?`). So a name under which there is nothing in the end is one
that no statement has looked at, and it is of no account to them what is under it.
-/

namespace Plotter.Toml

/-! ## Changes under one name -/

/-- Two tables hold the same, except under one name. -/
def AgreeBesides (name : String) (t t' : Entries) : Prop :=
  ∀ key, key ≠ name → t'.lookup key = t.lookup key

/-- A change looks at one name of a table and puts an item under it, if it goes through. -/
def Touches (name : String) (f : Entries → Option Entries) : Prop :=
  ∃ change : Option Item → Option Item, ∀ t, f t = (change (t.lookup name)).map (t.put name)

section Touches

variable {name key : String} {f : Entries → Option Entries} {t t' u : Entries}

/-- There is something under the name that was touched. -/
theorem Touches.lookup_eq_none (hf : Touches key f) (h : f t = some u)
    (hu : u.lookup name = none) : name ≠ key ∧ t.lookup name = none := by
  obtain ⟨change, hchange⟩ := hf
  rw [hchange] at h
  obtain ⟨i, -, rfl⟩ := Option.map_eq_some_iff.1 h
  by_cases hkey : name = key
  · subst hkey
    rw [Entries.lookup_put_self] at hu
    cases hu
  · rw [Entries.lookup_put_of_ne hkey] at hu
    exact ⟨hkey, hu⟩

/-- What is under other names is of no account to a change, and stays as it is. -/
theorem Touches.agree (hf : Touches key f) (hkey : name ≠ key) (hag : AgreeBesides name t t')
    (h : f t = some u) :
    ∃ u', f t' = some u' ∧ AgreeBesides name u u' ∧ u'.lookup name = t'.lookup name := by
  obtain ⟨change, hchange⟩ := hf
  rw [hchange] at h
  obtain ⟨i, hi, rfl⟩ := Option.map_eq_some_iff.1 h
  refine ⟨t'.put key i, ?_, ?_, Entries.lookup_put_of_ne hkey⟩
  · rw [hchange, hag key hkey.symm, hi, Option.map_some]
  · intro k hk
    by_cases hkk : k = key
    · subst hkk
      rw [Entries.lookup_put_self, Entries.lookup_put_self]
    · rw [Entries.lookup_put_of_ne hkk, Entries.lookup_put_of_ne hkk, hag k hk]

/-- What a change at a path makes of the item under the name before that path. -/
def altered? (made : Origin) (enter : Origin → Bool)
    (change : Origin → Entries → Option Entries) (path : List String) : Option Item → Option Item
  | none => (Entries.alter? made enter change path made []).map (.table made)
  | some (.table o s) =>
    if enter o then (Entries.alter? made enter change path o s).map (.table o) else none
  | some (.tables earlier last) =>
    (Entries.alter? made enter change path .stated last).map (.tables earlier)
  | some _ => none

/-- A change at a path touches the name with which the path begins. -/
theorem touches_alter? (made : Origin) (enter : Origin → Bool)
    (change : Origin → Entries → Option Entries) (key : String) (path : List String) (o : Origin) :
    Touches key (Entries.alter? made enter change (key :: path) o) := by
  refine ⟨altered? made enter change path, ?_⟩
  intro t
  rw [Entries.alter?]
  cases t.lookup key with
  | none =>
    rw [altered?, Option.map_map]
    rfl
  | some i =>
    cases i with
    | table o s =>
      dsimp only [altered?]
      split
      · rw [Option.map_map]
        rfl
      · rfl
    | tables earlier last =>
      rw [altered?, Option.map_map]
      rfl
    | _ => rfl

/-- The same where the change is made at the path itself, to the name `last` of the table there. -/
theorem touches_alter?_last (made : Origin) (enter : Origin → Bool)
    {change : Origin → Entries → Option Entries} (last : String)
    (hchange : ∀ o, Touches last (change o)) (path : List String) (o : Origin) :
    ∃ name, Touches name (Entries.alter? made enter change path o) := by
  cases path with
  | nil => exact ⟨last, hchange o⟩
  | cons key path => exact ⟨key, touches_alter? made enter change key path o⟩

end Touches

/-! ## What a statement touches -/

section Statements

variable {path : List String} {key : String} {i : Item} {o : Origin}

/-- What the header of a table makes of the item under its name. -/
def opened? : Option Item → Option Item
  | none => some (.table .stated [])
  | some (.table .implied u) => some (.table .stated u)
  | some _ => none

/-- What the header of a member of an array of tables makes of the item under its name. -/
def lengthened? : Option Item → Option Item
  | none => some (.tables [] [])
  | some (.tables earlier last) => some (.tables (earlier ++ [last]) [])
  | some _ => none

theorem touches_openTable? (path : List String) (key : String) :
    ∃ name, Touches name (Entries.openTable? path key) := by
  refine touches_alter?_last .implied _ key ?_ path .stated
  intro o
  refine ⟨opened?, ?_⟩
  intro t
  dsimp only
  cases t.lookup key with
  | none => rfl
  | some i =>
    cases i with
    | table o u => cases o <;> rfl
    | _ => rfl

theorem touches_openMember? (path : List String) (key : String) :
    ∃ name, Touches name (Entries.openMember? path key) := by
  refine touches_alter?_last .implied _ key ?_ path .stated
  intro o
  refine ⟨lengthened?, ?_⟩
  intro t
  dsimp only
  cases t.lookup key with
  | none => rfl
  | some i => cases i <;> rfl

theorem touches_assign? (path : List String) (key : String) (i : Item) (o : Origin) :
    ∃ name, Touches name (Entries.assign? path key i o) := by
  refine touches_alter?_last .dotted _ key ?_ path o
  intro o
  refine ⟨fun x =>
    if (o == .dotted) == path.isEmpty then none else if x.isSome then none else some i, ?_⟩
  intro t
  dsimp only
  split
  · rfl
  · split <;> rfl

/-- Every statement looks at one name of the document. -/
theorem touches_say? (path : List String) (st : Statement) :
    ∃ name, Touches name fun root => (Document.say? ⟨root, path⟩ st).map Document.root := by
  cases st with
  | table key =>
    simpa only [Document.say?, Option.map_map, Function.comp_def, Option.map_id'] using
      touches_openTable? key.path key.last
  | member key =>
    simpa only [Document.say?, Option.map_map, Function.comp_def, Option.map_id'] using
      touches_openMember? key.path key.last
  | assign key v =>
    simp only [Document.say?, Option.map_map, Function.comp_def, Option.map_id']
    cases path with
    | nil => exact touches_assign? key.path key.last v .stated
    | cons first path => exact ⟨first, touches_alter? _ _ _ first path .stated⟩

end Statements

/-! ## What documents touch -/

section Documents

variable {name : String} {d d' e : Document} {st : Statement} {ss a b : List Statement}

/-- The table that is open behind a statement does not depend on the tree. -/
theorem section_say? {path : List String} {root root' : Entries} {e e' : Document}
    (h : Document.say? ⟨root, path⟩ st = some e) (h' : Document.say? ⟨root', path⟩ st = some e') :
    e'.section_ = e.section_ := by
  cases st with
  | table key =>
    obtain ⟨r, -, rfl⟩ := Option.map_eq_some_iff.1 h
    obtain ⟨r', -, rfl⟩ := Option.map_eq_some_iff.1 h'
    rfl
  | member key =>
    obtain ⟨r, -, rfl⟩ := Option.map_eq_some_iff.1 h
    obtain ⟨r', -, rfl⟩ := Option.map_eq_some_iff.1 h'
    rfl
  | assign key v =>
    obtain ⟨r, -, rfl⟩ := Option.map_eq_some_iff.1 h
    obtain ⟨r', -, rfl⟩ := Option.map_eq_some_iff.1 h'
    rfl

/-- Two documents in which the same table is open and that agree besides one name. -/
structure Document.AgreeBesides (name : String) (d d' : Document) : Prop where
  section_ : d'.section_ = d.section_
  root : Toml.AgreeBesides name d.root d'.root

/-- A name under which there is nothing behind a statement was of no account to it. -/
theorem say?_agree (hag : d.AgreeBesides name d') (h : d.say? st = some e)
    (he : e.root.lookup name = none) :
    d.root.lookup name = none ∧ ∃ e', d'.say? st = some e' ∧ e.AgreeBesides name e' ∧
      e'.root.lookup name = d'.root.lookup name := by
  obtain ⟨root, path⟩ := d
  obtain ⟨root', path'⟩ := d'
  obtain ⟨hpath, hroot⟩ := hag
  cases hpath
  obtain ⟨key, htouch⟩ := touches_say? path st
  have hmap : (Document.say? ⟨root, path⟩ st).map Document.root = some e.root := by
    rw [h, Option.map_some]
  obtain ⟨hkey, hnone⟩ := htouch.lookup_eq_none hmap he
  obtain ⟨u', hu', hagree, hlookup⟩ := htouch.agree hkey hroot hmap
  obtain ⟨e', he', rfl⟩ := Option.map_eq_some_iff.1 hu'
  exact ⟨hnone, e', he', ⟨section_say? h he', hagree⟩, hlookup⟩

/-- If there is nothing under a name in the end, there never was. -/
theorem lookup_eq_none_of_foldlM (h : ss.foldlM Document.say? d = some e)
    (he : e.root.lookup name = none) : d.root.lookup name = none := by
  induction ss generalizing d with
  | nil =>
    cases h
    exact he
  | cons st rest ih =>
    rw [List.foldlM_cons] at h
    obtain ⟨d₁, hd₁, h⟩ := Option.bind_eq_some_iff.1 h
    have hag : d.AgreeBesides name d := ⟨rfl, fun _ _ => rfl⟩
    exact (say?_agree hag hd₁ (ih h)).1

/-- A name under which there is nothing in the end was of no account. -/
theorem foldlM_agree (hag : d.AgreeBesides name d') (h : ss.foldlM Document.say? d = some e)
    (he : e.root.lookup name = none) :
    ∃ e', ss.foldlM Document.say? d' = some e' ∧ e.AgreeBesides name e' ∧
      e'.root.lookup name = d'.root.lookup name := by
  induction ss generalizing d d' with
  | nil =>
    cases h
    exact ⟨d', rfl, hag, rfl⟩
  | cons st rest ih =>
    rw [List.foldlM_cons] at h
    obtain ⟨d₁, hd₁, h⟩ := Option.bind_eq_some_iff.1 h
    obtain ⟨-, d₁', hd₁', hag₁, hlookup⟩ := say?_agree hag hd₁ (lookup_eq_none_of_foldlM h he)
    obtain ⟨e', he', hage, hlookup'⟩ := ih hag₁ h
    refine ⟨e', ?_, hage, hlookup'.trans hlookup⟩
    rw [List.foldlM_cons, hd₁', Option.bind_eq_bind, Option.bind_some, he']

/-- A statement is a header. -/
def Statement.IsHeader : Statement → Prop
  | .assign _ _ => False
  | _ => True

/-- The header of a name of the document under which there is nothing opens an empty table. -/
theorem say?_of_lookup_eq_none (h : d.root.lookup name = none) :
    d.say? (.table ⟨[], name⟩) = some ⟨d.root.put name (.table .stated []), [name]⟩ := by
  simp [Document.say?, Entries.openTable?, Entries.alterHeaded?, Entries.alter?, h]

theorem agreeBesides_put (d : Document) (name : String) (i : Item) :
    d.AgreeBesides name ⟨d.root.put name i, d.section_⟩ :=
  ⟨rfl, fun _ hkey => Entries.lookup_put_of_ne hkey⟩

/-- A name that statements leave out may be given an empty table between two of their tables or at
their end, and nothing else is different. -/
theorem foldlM_of_opened (h : (a ++ b).foldlM Document.say? d = some e)
    (he : e.root.lookup name = none) (hb : ∀ st ∈ b.head?, st.IsHeader) :
    ∃ e', (a ++ .table ⟨[], name⟩ :: b).foldlM Document.say? d = some e' ∧
      AgreeBesides name e.root e'.root ∧ e'.root.lookup name = some (.table .stated []) := by
  rw [List.foldlM_append] at h
  obtain ⟨m, hm, h⟩ := Option.bind_eq_some_iff.1 h
  have hopen := say?_of_lookup_eq_none (lookup_eq_none_of_foldlM h he)
  obtain ⟨e', he', hag, hlookup⟩ := foldlM_agree (agreeBesides_put m name (.table .stated [])) h he
  rw [Entries.lookup_put_self] at hlookup
  simp only [List.foldlM_append, List.foldlM_cons, hm, hopen, Option.bind_eq_bind,
    Option.bind_some]
  cases b with
  | nil =>
    cases he'
    exact ⟨_, rfl, hag.root, hlookup⟩
  | cons st rest =>
    -- The header that comes next opens its table, whether or not another one is open before it.
    have hst : st.IsHeader := hb st rfl
    cases st with
    | table key => exact ⟨e', he', hag.root, hlookup⟩
    | member key => exact ⟨e', he', hag.root, hlookup⟩
    | assign key v => exact hst.elim

/-- A text that opens an empty table for a name that another text leaves out, between two of its
tables or at its end, and says the same otherwise, gives a tree that is different under that name
only. -/
theorem parse?_of_opened {s s' : List Char} {root : Entries} (hs : statements? s = some (a ++ b))
    (hs' : statements? s' = some (a ++ .table ⟨[], name⟩ :: b)) (hb : ∀ st ∈ b.head?, st.IsHeader)
    (h : parse? s = some root) (hname : root.lookup name = none) :
    ∃ root', parse? s' = some root' ∧ AgreeBesides name root root' ∧
      root'.lookup name = some (.table .stated []) := by
  rw [parse?, hs, Option.bind_eq_bind, Option.bind_some] at h
  obtain ⟨e, he, hroot⟩ := Option.bind_eq_some_iff.1 h
  cases hroot
  obtain ⟨e', he', hag, hlookup⟩ := foldlM_of_opened he hname hb
  refine ⟨e'.root, ?_, hag, hlookup⟩
  rw [parse?, hs', Option.bind_eq_bind, Option.bind_some, he']
  rfl

end Documents

end Plotter.Toml
