import Courier.Pattern
import Courier.Pattern.Flags

/-!
# Escapes

What a backslash and the characters after it stand for. The kinds of characters that have letters
are known for ASCII only, so where characters are those of Unicode they stand for nothing.
-/

namespace Courier.Pattern

inductive Symbol where
  | char (c : Char)
  | kind (members : CharSet)
  | look (l : Look)
  deriving DecidableEq, Repr

namespace Symbol

def hexValue? (c : Char) : Option Nat :=
  if c.isDigit then some (c.toNat - '0'.toNat)
  else if 'a' ≤ c ∧ c ≤ 'f' then some (c.toNat - 'a'.toNat + 10)
  else if 'A' ≤ c ∧ c ≤ 'F' then some (c.toNat - 'A'.toNat + 10)
  else none

/-- The number that so many digits stand for, behind those of a given value. -/
def hexNumber? (f : Flags) (value : Nat) : Nat → List Char → Option (Nat × List Char)
  | 0, s => some (value, s)
  | n + 1, s =>
    match f.skip s with
    | [] => none
    | c :: rest => (hexValue? c).bind fun digit => hexNumber? f (16 * value + digit) n rest

/-- The character of a number with so many digits. -/
def hexChar? (f : Flags) (width : Nat) (s : List Char) : Option (Char × List Char) := do
  let (n, rest) ← hexNumber? f 0 width s
  if n.isValidChar then return (Char.ofNat n, rest) else none

/-- The character that a letter stands for; all marks and blanks of ASCII stand for themselves. -/
def escaped? (c : Char) : Option Char :=
  match c with
  | 'a' => some '\x07'
  | 'f' => some '\x0c'
  | 'n' => some '\n'
  | 'r' => some '\r'
  | 't' => some '\t'
  | 'v' => some '\x0b'
  | c => if c ≤ '\x7f' && !c.isAlphanum then some c else none

/-- The condition that a character stands for. -/
def look? (f : Flags) (c : Char) : Option Look :=
  match c with
  | 'A' => some .textStart
  | 'z' => some .textEnd
  | 'b' => if f.unicode then none else some .wordEdge
  | 'B' => if f.unicode then none else some .noWordEdge
  | '<' => if f.unicode then none else some .wordStart
  | '>' => if f.unicode then none else some .wordEnd
  | _ => none

/-- The kind of characters that a letter stands for. -/
def kind? (f : Flags) (c : Char) : Option CharSet :=
  if f.unicode then none
  else match c with
    | 'd' => some .digits
    | 's' => some .blanks
    | 'w' => some .word
    | _ => none

/-- Reads what comes after a backslash. A number of two digits is a byte where characters are
bytes, and only those of ASCII are whole characters. -/
def escape? (f : Flags) : List Char → Option (Symbol × List Char)
  | [] => none
  | 'x' :: rest => do
    let (c, rest) ← hexChar? f 2 rest
    if f.unicode || c ≤ '\x7f' then return (.char c, rest) else none
  | 'u' :: rest => (hexChar? f 4 rest).map fun (c, rest) => (.char c, rest)
  | 'U' :: rest => (hexChar? f 8 rest).map fun (c, rest) => (.char c, rest)
  | c :: rest =>
    match look? f c with
    | some l => some (.look l, rest)
    | none =>
      match kind? f c with
      | some members => some (.kind members, rest)
      | none =>
        if c = '<' ∨ c = '>' then none else (escaped? c).map fun c => (.char c, rest)

end Symbol

end Courier.Pattern
