import Plotter.Toml.Statement

/-!
# TOML documents

What the statements of a document say together: each adds to what those before it have said
(`Document.say?`), and a document in which one of them contradicts those before it is refused.
-/

namespace Plotter.Toml

/-- What the statements so far have said. -/
structure Document where
  /-- The whole tree. -/
  root : Entries
  /-- The path of the table that is open. -/
  section_ : List String

namespace Document

/-- The document in which nothing has been said. -/
def empty : Document := ⟨[], []⟩

/-- What has been said after one more statement. -/
def say? (d : Document) : Statement → Option Document
  | .table key => (d.root.openTable? key.path key.last).map fun r => ⟨r, key.path ++ [key.last]⟩
  | .member key => (d.root.openMember? key.path key.last).map fun r => ⟨r, key.path ++ [key.last]⟩
  | .assign key value =>
    (d.root.alterHeaded? d.section_ fun o t => t.assign? key.path key.last value o).map fun r =>
      ⟨r, d.section_⟩

end Document

/-- The tree of a text, if it is a document. -/
def parse? (s : List Char) : Option Entries := do
  let d ← (← statements? s).foldlM Document.say? .empty
  return d.root

end Plotter.Toml
