import Courier.Toml.Statement

/-!
# The table of a document

The table that a TOML text stands for.
-/

namespace Courier.Toml

/-- The root table so far, and the path of the table that assignments go to. -/
structure Draft where
  root : Entries
  current : List String

namespace Draft

def empty : Draft := ⟨[], []⟩

/-- The effect of one statement, unless it repeats a key or reopens a table. -/
def extend? (d : Draft) : Statement → Option Draft
  | .assign path v => do
    let root ← d.root.within? (Entries.assign? .opened path.above path.last v) d.current
    return { d with root }
  | .table path => do
    let root ← d.root.within? (Entries.openTable? path.last) path.above
    return ⟨root, path.keys⟩
  | .tableItem path => do
    let root ← d.root.within? (Entries.openItem? path.last) path.above
    return ⟨root, path.keys⟩

end Draft

/-- The table that statements make in turn. -/
def table? (statements : List Statement) : Option Table :=
  (statements.foldlM Draft.extend? Draft.empty).map fun d => entriesToTable d.root

def parse? (text : String) : Option Table := statements? text.toList >>= table?

end Courier.Toml
