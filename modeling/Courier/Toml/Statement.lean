import Courier.Toml.Number
import Courier.Toml.Moment
import Courier.Toml.Text
import Courier.Toml.Tree

/-!
# Statements

A TOML text as the list of its statements: assignments and headers, in the order written. What the
statements mean together is left to `Document`.
-/

namespace Courier.Toml

/-- Arrays and inline tables nest this deep, so what the innermost holds is 80 deep. -/
def nestingLimit : Nat := 79

/-- A key has fewer parts than this. -/
def keyPathLimit : Nat := 80

def isBareKey (c : Char) : Bool :=
  isDigit c || ('a' ≤ c && c ≤ 'z') || ('A' ≤ c && c ≤ 'Z') || c = '-' || c = '_'

def simpleKey : Reader String
  | '"' :: rest => (lineText '"' true rest).map fun (t, r) => (String.ofList t, r)
  | '\'' :: rest => (lineText '\'' false rest).map fun (t, r) => (String.ofList t, r)
  | s =>
    let name := s.takeWhile isBareKey
    if name = [] then none else some (String.ofList name, s.dropWhile isBareKey)

/-- A key with blanks around each of its parts. -/
def keyPath : Reader KeyPath := fun s => do
  let part : Reader String := fun s => do
    let (key, rest) ← simpleKey (skipBlank s)
    return (key, skipBlank rest)
  let (keys, rest) ← separated part '.' s
  if keys.length < keyPathLimit then
    let last ← keys.getLast?
    return (⟨keys.dropLast, last⟩, rest)
  else none

def assignment (value : Reader Value) : Reader (KeyPath × Value) := fun s => do
  let (path, rest) ← keyPath s
  let rest ← expect '=' rest
  let (v, rest) ← value (skipBlank rest)
  return ((path, v), rest)

/-- The items of an array and its closing bracket; a comma may follow the last item. -/
def arrayItems (value : Reader Value) : Reader (List Value) := fun s => do
  let item : Reader Value := fun s => do
    let (v, rest) ← value (skipGaps s)
    return (v, skipGaps rest)
  let (items, rest) := (separated item ',' s).getD ([], s)
  let rest := if items = [] then skipGaps rest else skipGaps ((expect ',' rest).getD rest)
  let rest ← expect ']' rest
  return (items, rest)

/-- The assignments of an inline table and its closing brace, all on one line. -/
def inlineEntries (value : Reader Value) : Reader (List (KeyPath × Value)) := fun s => do
  let item : Reader (KeyPath × Value) := fun s => do
    let (entry, rest) ← assignment value s
    return (entry, skipBlank rest)
  let (entries, rest) := (separated item ',' s).getD ([], s)
  let rest ← expect '\x7d' (skipBlank rest)
  return (entries, rest)

def scalar : Reader Value
  | '"' :: rest => (quotedText ('"' :: rest)).map fun (t, r) => (.string t, r)
  | '\'' :: rest => (quotedText ('\'' :: rest)).map fun (t, r) => (.string t, r)
  | 't' :: 'r' :: 'u' :: 'e' :: rest => some (.boolean true, rest)
  | 'f' :: 'a' :: 'l' :: 's' :: 'e' :: rest => some (.boolean false, rest)
  | s => match moment s with
    | some rest => some (.moment, rest)
    | none => number s

/-- A value that nests arrays and inline tables at most `depth` deep. -/
def value : Nat → Reader Value
  | 0, s => match s with
    | '[' :: _ => none
    | '\x7b' :: _ => none
    | s => scalar s
  | depth + 1, s => match s with
    | '[' :: rest => (arrayItems (value depth) rest).map fun (items, r) => (.array items, r)
    | '\x7b' :: rest => do
      let (entries, rest) ← inlineEntries (value depth) rest
      return (← inlineTable? entries, rest)
    | s => scalar s

inductive Statement where
  | assign (path : KeyPath) (v : Value)
  | table (path : KeyPath)
  | tableItem (path : KeyPath)
  deriving Repr

/-- A header after its opening bracket, of a table or of an item of an array of tables. -/
def header : Reader Statement
  | '[' :: rest => do
    let (path, rest) ← keyPath rest
    let rest ← (expect ']' rest) >>= expect ']'
    return (.tableItem path, rest)
  | s => do
    let (path, rest) ← keyPath s
    let rest ← expect ']' rest
    return (.table path, rest)

/-- A line: a statement, or nothing but blanks and a comment. -/
def line : Reader (Option Statement) := fun s =>
  match skipBlank s with
  | [] => none
  | '[' :: rest => do
    let (statement, rest) ← header rest
    return (some statement, ← lineEnd rest)
  | c :: rest =>
    if c = '#' ∨ c = '\n' ∨ c = '\r' then return (none, ← lineEnd (c :: rest))
    else do
      let ((path, v), rest) ← assignment (value nestingLimit) (c :: rest)
      return (some (.assign path v), ← lineEnd rest)

/-- The statements of a text; a byte order mark at its start is no part of them. -/
def statements? (text : List Char) : Option (List Statement) :=
  let body := match text with
    | '\uFEFF' :: rest => rest
    | s => s
  let (lines, rest) := many line body
  if skipBlank rest = [] then some (lines.filterMap id) else none

end Courier.Toml
