import Courier.Toml.Value

/-!
# Tables under construction

The tables of a document while its statements are put together. A table remembers how it came to
be, since that decides which later statements may add to it: a header opens a table once, and also
one that another header only passed through; a dotted key adds to tables that dotted keys made. An
array of tables stands for its last item wherever a path leads on from it.
-/

namespace Courier.Toml

/-- A key with the keys before its dots. -/
structure KeyPath where
  above : List String
  last : String
  deriving DecidableEq, Repr

def KeyPath.keys (p : KeyPath) : List String := p.above ++ [p.last]

/-- How a table came to be: by its own header, on the way of another header, or by a dotted key. -/
inductive Origin where
  | opened
  | passed
  | dotted
  deriving DecidableEq, Repr

inductive Node where
  | value (v : Value)
  | table (origin : Origin) (entries : List (String × Node))
  | tables (items : List (List (String × Node)))

/-- The entries of a table under construction, in the order in which they appeared. -/
abbrev Entries := List (String × Node)

namespace Entries

def find? (t : Entries) (key : String) : Option Node := t.lookup key

/-- Puts a node in the place of the one under the key. -/
def replace (t : Entries) (key : String) (node : Node) : Entries :=
  t.map fun (k, n) => if k = key then (k, node) else (k, n)

def erase (t : Entries) (key : String) : Entries := t.filter (·.1 ≠ key)

/-- Adds an entry unless the key is taken. -/
def add? (t : Entries) (key : String) (node : Node) : Option Entries :=
  match t.find? key with
  | some _ => none
  | none => some (t ++ [(key, node)])

/-- Changes the table at the end of a header's path, where an array of tables stands for its last
item. Tables that are missing on the way are made. -/
def within? (change : Entries → Option Entries) : List String → Entries → Option Entries
  | [], t => change t
  | key :: path, t =>
    match t.find? key with
    | none => (within? change path []).map fun inner => t ++ [(key, .table .passed inner)]
    | some (.table origin inner) =>
      (within? change path inner).map fun inner => t.replace key (.table origin inner)
    | some (.tables items) => do
      let inner ← items.getLast?
      let inner ← within? change path inner
      return t.replace key (.tables (items.dropLast ++ [inner]))
    | some (.value _) => none

/-- Adds an assignment to a table of the given origin. Its dotted keys pass through tables without
a header of their own and through the last items of arrays of tables, and the last of them leads to
a table that dotted keys made. -/
def assign? (origin : Origin) : List String → String → Value → Entries → Option Entries
  | [], key, v, t => if origin = .passed then none else t.add? key (.value v)
  | first :: path, key, v, t =>
    match t.find? first with
    | none =>
      (assign? .dotted path key v []).map fun inner => t ++ [(first, .table .dotted inner)]
    | some (.table origin inner) =>
      if origin = .opened then none
      else (assign? origin path key v inner).map fun inner =>
        t.replace first (.table origin inner)
    | some (.tables items) => do
      let inner ← items.getLast?
      let inner ← assign? .passed path key v inner
      return t.replace first (.tables (items.dropLast ++ [inner]))
    | some (.value _) => none

/-- Opens a table by its header; what other headers put into it beforehand stays, ahead of what
follows. -/
def openTable? (key : String) (t : Entries) : Option Entries :=
  match t.find? key with
  | none => some (t ++ [(key, .table .opened [])])
  | some (.table .passed inner) => some (t.erase key ++ [(key, .table .opened inner)])
  | some _ => none

/-- Opens one more item of an array of tables. -/
def openItem? (key : String) (t : Entries) : Option Entries :=
  match t.find? key with
  | none => some (t ++ [(key, .tables [[]])])
  | some (.tables items) => some (t.replace key (.tables (items ++ [[]])))
  | some _ => none

end Entries

mutual

def Node.toValue : Node → Value
  | .value v => v
  | .table _ entries => .table (entriesToTable entries)
  | .tables items => .array (itemsToValues items)

def entriesToTable : List (String × Node) → Table
  | [] => []
  | (key, node) :: rest => (key, node.toValue) :: entriesToTable rest

def itemsToValues : List (List (String × Node)) → List Value
  | [] => []
  | entries :: rest => .table (entriesToTable entries) :: itemsToValues rest

end

/-- The table that assignments on one line write. -/
def inlineTable? (assignments : List (KeyPath × Value)) : Option Value := do
  let entries ← assignments.foldlM
    (fun t (path, v) => Entries.assign? .opened path.above path.last v t) []
  return .table (entriesToTable entries)

end Courier.Toml
