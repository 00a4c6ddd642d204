import Courier.CodePoints.Alphanumeric
import Courier.Pattern.Bracket

/-!
# Reading patterns

The written form of patterns: alternatives with bars between them, each a sequence of items, and
marks behind items that say how often they repeat. A group in parentheses is an item; it may have a
name, or flags that count up to its end. A text that is written in no such way, or is nested too
deeply, stands for no pattern.
-/

namespace Courier.Pattern

/-- What is still to be read, and what has come before it. -/
structure Reading where
  flags : Flags
  rest : List Char
  /-- The number of groups so far that have a number. -/
  groups : Nat
  names : List (List Char)
  deriving DecidableEq, Repr

/-- An item of a sequence. Flags are items too, but they cannot be repeated. -/
inductive Item where
  | pattern (p : Nested Pattern)
  | flags
  deriving DecidableEq, Repr

namespace Item

def value : Item → Pattern
  | .pattern p => p.value
  | .flags => .empty

def depth : Item → Nat
  | .pattern p => p.depth
  | .flags => 0

end Item

namespace Nested

/-- Puts several parts together, which makes them one level deeper. -/
def combine (f : List Pattern → Pattern) : List (Nested Pattern) → Nested Pattern
  | [] => ⟨.empty, 0⟩
  | [p] => p
  | ps => ⟨f (ps.map (·.value)), ((ps.map (·.depth)).foldl max 0) + 1⟩

end Nested

/-- The deepest nesting that is read. -/
def depthLimit : Nat := 250

namespace Reading

def ofText (s : List Char) : Reading := ⟨{}, s, 0, []⟩

/-- The pattern of a character. Its case counts unless the flags say otherwise. -/
def char? (f : Flags) (c : Char) : Option Pattern :=
  if !f.anyCase then some (.text [c])
  else if f.unicode then none
  else if c.isAlpha then some (ofSet (CharSet.single c).inBothCases true)
  else some (.text [c])

/-- What a point stands for: any character, but no end of a line unless the flags say so. -/
def point? (f : Flags) : Option Pattern :=
  if !f.unicode then none
  else
    let excluded : CharSet :=
      if f.dotAll then .empty
      else if f.carriage then .ofChars ['\r', '\n']
      else .single '\n'
    some (ofSet excluded.complement false)

def lineStart (f : Flags) : Look :=
  if !f.byLine then .textStart else if f.carriage then .anyLineStart else .lineStart

def lineEnd (f : Flags) : Look :=
  if !f.byLine then .textEnd else if f.carriage then .anyLineEnd else .lineEnd

/-- Reads one character, or what a backslash introduces. -/
def symbol? (f : Flags) : List Char → Option (Pattern × List Char)
  | [] => none
  | '\\' :: rest => do
    match ← Symbol.escape? f rest with
    | (.char c, rest) => return (← char? f c, rest)
    | (.kind set, rest) => return (ofSet set true, rest)
    | (.look l, rest) => return (.look l, rest)
  | '.' :: rest => (point? f).map (·, rest)
  | '^' :: rest => some (.look (lineStart f), rest)
  | '$' :: rest => some (.look (lineEnd f), rest)
  | c :: rest => (char? f c).map (·, rest)

/-- Repeats the item that comes last. -/
def repeat? (f : Flags) (times : Times) (items : List Item) (rest : List Char) :
    Option (List Item × List Char) :=
  let (isMarked, rest) := match rest with
    | '?' :: rest => (true, rest)
    | _ => (false, rest)
  match items with
  | .pattern p :: items =>
    some (.pattern ⟨p.value.many times (isMarked == f.swapped), p.depth + 1⟩ :: items, rest)
  | _ => none

/-- Whether a character may be in a name. -/
def isNaming (isFirst : Bool) (c : Char) : Bool :=
  if isFirst then c = '_' || CodePoints.isAlphabetic c
  else c ∈ ['_', '.', '[', ']'] || CodePoints.isAlphanumeric c

/-- Reads a name that no group has yet, up to the bracket behind it. -/
def name? (names : List (List Char)) (s : List Char) : Option (List Char × List Char) :=
  let name := s.takeWhile (· ≠ '>')
  match name, s.dropWhile (· ≠ '>') with
  | c :: more, _ :: rest =>
    if isNaming true c && more.all (isNaming false) && name ∉ names then some (name, rest) else none
  | _, _ => none

/-- What an opening parenthesis begins: a group, with a number or without, or flags for what comes
after them. -/
inductive Opening where
  | group (isNumbered : Bool) (r : Reading)
  | flags (r : Reading)
  deriving DecidableEq, Repr

def numbered (r : Reading) (rest : List Char) : Opening :=
  .group true { r with rest, groups := r.groups + 1 }

def named? (r : Reading) (s : List Char) : Option Opening :=
  (name? r.names s).map fun (name, rest) => numbered { r with names := name :: r.names } rest

/-- Reads what comes after an opening parenthesis, up to the contents of the group. -/
def open? (r : Reading) (s : List Char) : Option Opening :=
  match r.flags.skip s with
  | '?' :: 'P' :: '<' :: rest => r.named? rest
  | '?' :: '<' :: rest => r.named? rest
  | '?' :: rest => do
    let (flags, rest) ← r.flags.change? [] true rest
    match rest with
    | ':' :: rest => return .group false { r with flags, rest }
    | _ => return .flags { r with flags, rest := rest.drop 1 }
  | rest => some (numbered r rest)

mutual

/-- Reads alternatives up to the end of the group. -/
def alternatives? : Nat → Reading → Option (List (Nested Pattern) × Reading)
  | 0, _ => none
  | fuel + 1, r => do
    let (p, r) ← items? fuel [] r
    match r.rest with
    | '|' :: rest => do
      let (ps, r) ← alternatives? fuel { r with rest }
      return (p :: ps, r)
    | _ => return ([p], r)

/-- Reads the items of a sequence; those read so far come last first. -/
def items? : Nat → List Item → Reading → Option (Nested Pattern × Reading)
  | 0, _, _ => none
  | fuel + 1, items, r =>
    let s := r.flags.skip r.rest
    let repeated (times : Times) (rest : List Char) : Option (Nested Pattern × Reading) := do
      let (items, rest) ← repeat? r.flags times items rest
      items? fuel items { r with rest }
    let whole : Nested Pattern :=
      .combine sequence (items.reverse.map fun item => ⟨item.value, item.depth⟩)
    match s with
    | [] | '|' :: _ | ')' :: _ => some (whole, { r with rest := s })
    | '\x7b' :: _ => none
    | '?' :: rest => repeated .atMostOnce rest
    | '*' :: rest => repeated .anyNumber rest
    | '+' :: rest => repeated .atLeastOnce rest
    | '[' :: rest => do
      let (⟨set, depth⟩, rest) ← bracket? r.flags (2 * rest.length + 2) rest
      items? fuel (.pattern ⟨ofSet set (!r.flags.unicode), depth⟩ :: items) { r with rest }
    | '(' :: rest => do
      match ← r.open? rest with
      | .flags r => items? fuel (.flags :: items) r
      | .group isNumbered inner => do
        let (⟨p, depth⟩, after) ← group? fuel inner
        let p := if isNumbered then .group inner.groups p else p
        items? fuel (.pattern ⟨p, depth + 1⟩ :: items) { after with flags := r.flags }
    | s => do
      let (p, rest) ← symbol? r.flags s
      items? fuel (.pattern ⟨p, 0⟩ :: items) { r with rest }

/-- Reads the contents of a group and the parenthesis behind them. -/
def group? : Nat → Reading → Option (Nested Pattern × Reading)
  | 0, _ => none
  | fuel + 1, r => do
    let (ps, r) ← alternatives? fuel r
    match r.rest with
    | ')' :: rest => return (.combine choice ps, { r with rest })
    | _ => none

end

end Reading

/-- The pattern that a text stands for, if it stands for one. -/
def ofText? (s : List Char) : Option Pattern :=
  match Reading.alternatives? (3 * s.length + 3) (.ofText s) with
  | some (ps, r) =>
    let p := Nested.combine choice ps
    if r.rest = [] ∧ p.depth ≤ depthLimit then some p.value else none
  | none => none

end Courier.Pattern
