import Courier.Pattern.Symbol

/-!
# Sets in brackets

The members of a set stand between brackets: characters, ranges, sets with names, and sets in
brackets of their own. Sets can be combined by signs that are written twice, from left to right:
`&&` for what both have, `--` for what only the first has, `~~` for what only one has.
-/

namespace Courier.Pattern

/-- A part of a pattern with the depth of its nesting. -/
structure Nested (α : Type) where
  value : α
  depth : Nat
  deriving DecidableEq, Repr

inductive SetOperator where
  | inter
  | diff
  | symmDiff
  deriving DecidableEq, Repr

def SetOperator.apply : SetOperator → CharSet → CharSet → CharSet
  | .inter => CharSet.inter
  | .diff => CharSet.diff
  | .symmDiff => CharSet.symmDiff

/-- The members of a set that have been read so far, up to a sign or the end. -/
structure Members where
  set : CharSet := .empty
  count : Nat := 0
  depth : Nat := 0
  deriving DecidableEq, Repr

namespace Members

def add (m : Members) (set : CharSet) (depth : Nat) : Members :=
  ⟨m.set.union set, m.count + 1, max m.depth depth⟩

/-- Members as a set. Several of them are one level deeper than one. -/
def whole (m : Members) : Nested CharSet := ⟨m.set, if 2 ≤ m.count then m.depth + 1 else m.depth⟩

/-- Members combined with the set before the sign in front of them. -/
def combine (left : Option (Nested CharSet × SetOperator)) (m : Members) : Nested CharSet :=
  match left with
  | none => m.whole
  | some (left, op) => ⟨op.apply left.value m.whole.value, max left.depth m.whole.depth + 1⟩

end Members

/-- What is not in a set. Where characters are bytes, that would be more than ASCII. -/
def Flags.complement? (f : Flags) (set : CharSet) : Option CharSet :=
  if f.unicode then some set.complement else none

/-- Reads a character, as itself or by an escape. -/
def Flags.symbol? (f : Flags) : List Char → Option (Symbol × List Char)
  | [] => none
  | '\\' :: rest => Symbol.escape? f rest
  | c :: rest => some (.char c, rest)

/-- The set of a range. Where characters are bytes it has only characters of ASCII. -/
def Flags.range? (f : Flags) (first last : Char) : Option CharSet :=
  if last < first ∨ (!f.unicode ∧ '\x7f' < last) then none else f.fold? (.range first last)

/-- Reads a character, a range or a letter for a kind of characters. -/
def Flags.members? (f : Flags) (s : List Char) : Option (CharSet × List Char) := do
  let (symbol, rest) ← f.symbol? s
  let rest := f.skip rest
  match symbol, rest with
  | .look _, _ => none
  | .kind set, '-' :: more =>
    if f.peek? more = some ']' ∨ f.peek? more = some '-' then return (set, rest) else none
  | .kind set, _ => return (set, rest)
  | .char first, '-' :: more =>
    if f.peek? more = some ']' ∨ f.peek? more = some '-' then
      return (← f.range? first first, rest)
    else match ← f.symbol? (f.skip more) with
      | (.char last, rest) => return (← f.range? first last, rest)
      | _ => none
  | .char c, _ => return (← f.range? c c, rest)

/-- A name between colons, after the bracket before it, and what is left after the bracket behind
it; a circumflex in front of it stands for what is not in the set. -/
def named? (s : List Char) : Option (CharSet × Bool × List Char) := do
  let s ← match s with
    | ':' :: rest => some rest
    | _ => none
  let (isComplement, s) := match s with
    | '^' :: rest => (true, rest)
    | _ => (false, s)
  let set ← CharSet.named? (String.ofList (s.takeWhile (· ≠ ':')))
  match s.dropWhile (· ≠ ':') with
  | ':' :: ']' :: rest => return (set, isComplement, rest)
  | _ => none

mutual

/-- Reads a set after its opening bracket. -/
def bracket? (f : Flags) : Nat → List Char → Option (Nested CharSet × List Char)
  | 0, _ => none
  | fuel + 1, s => do
    let s := f.skip s
    let (isComplement, s) := match s with
      | '^' :: rest => (true, rest)
      | _ => (false, s)
    let (⟨set, depth⟩, rest) ← inside? f fuel true none {} s
    let set ← if isComplement then f.complement? set else some set
    return (⟨set, depth + 1⟩, rest)

/-- Reads members up to the bracket that closes the set. At the beginning minuses are members, and
so is a closing bracket in the first place. -/
def inside? (f : Flags) (fuel : Nat) (isBeginning : Bool)
    (left : Option (Nested CharSet × SetOperator)) (m : Members) (s : List Char) :
    Option (Nested CharSet × List Char) :=
  match fuel with
  | 0 => none
  | fuel + 1 =>
    let literal (c : Char) (isBeginning : Bool) (rest : List Char) :=
      (f.range? c c).bind fun set => inside? f fuel isBeginning left (m.add set 0) rest
    let combined (op : SetOperator) (rest : List Char) :=
      inside? f fuel false (some (m.combine left, op)) {} rest
    match f.skip s, isBeginning with
    | [], _ => none
    | '-' :: rest, true => literal '-' true rest
    | ']' :: rest, true =>
      if m.count = 0 then literal ']' false rest else some (m.combine left, rest)
    | ']' :: rest, false => some (m.combine left, rest)
    | '[' :: rest, _ =>
      match named? rest with
      | some (set, isComplement, rest) => do
        let set ← f.fold? set
        let set ← if isComplement then f.complement? set else some set
        inside? f fuel false left (m.add set 0) rest
      | none => do
        let (⟨set, depth⟩, rest) ← bracket? f fuel rest
        inside? f fuel false left (m.add set depth) rest
    | '&' :: '&' :: rest, _ => combined .inter rest
    | '-' :: '-' :: rest, _ => combined .diff rest
    | '~' :: '~' :: rest, _ => combined .symmDiff rest
    | s, _ => do
      let (set, rest) ← f.members? s
      inside? f fuel false left (m.add set 0) rest

end

end Courier.Pattern
