/-!
# Readers

Readers take something off the front of a text, or refuse. What the grammar repeats is read by
`many`; its bound, the length of the text, is never reached by a reader that takes a character
at least.
-/

namespace Courier.Toml

abbrev Reader (α : Type) := List Char → Option (α × List Char)

def manyUpTo {α : Type} (item : Reader α) : Nat → List Char → List α × List Char
  | 0, s => ([], s)
  | n + 1, s => match item s with
    | none => ([], s)
    | some (a, rest) =>
      let (more, rest) := manyUpTo item n rest
      (a :: more, rest)

/-- What `item` reads, one after another, up to where it refuses. -/
def many {α : Type} (item : Reader α) (s : List Char) : List α × List Char :=
  manyUpTo item s.length s

/-- Takes one given character. -/
def expect (c : Char) (s : List Char) : Option (List Char) :=
  match s with
  | d :: rest => if d = c then some rest else none
  | [] => none

/-- What two readers read, with `separator` between them and repeated. -/
def separated {α : Type} (item : Reader α) (separator : Char) : Reader (List α) := fun s => do
  let (first, rest) ← item s
  let (more, rest) := many (fun s => expect separator s >>= item) rest
  return (first :: more, rest)

def isBlank (c : Char) : Bool := c = ' ' || c = '\t'

def skipBlank (s : List Char) : List Char := s.dropWhile isBlank

/-- A line ends with a line feed, which a carriage return may precede. -/
def newline : List Char → Option (List Char)
  | '\n' :: rest => some rest
  | '\r' :: '\n' :: rest => some rest
  | _ => none

/-- The characters that may stand for themselves: the tab, and all that is no ASCII control. -/
def isPlain (c : Char) : Bool := c = '\t' || (' ' ≤ c && c ≠ '\x7f')

/-- Drops a comment, up to the end of its line. -/
def skipComment : List Char → List Char
  | '#' :: rest => rest.dropWhile isPlain
  | s => s

/-- The end of a line or of the text, after blanks and a comment. -/
def lineEnd (s : List Char) : Option (List Char) :=
  match skipComment (skipBlank s) with
  | [] => some []
  | rest => newline rest

/-- One step over what may stand between the items of an array. -/
def gap : Reader Unit
  | '#' :: rest => some ((), rest.dropWhile isPlain)
  | c :: rest => if isBlank c then some ((), rest) else (newline (c :: rest)).map ((), ·)
  | [] => none

def skipGaps (s : List Char) : List Char := (many gap s).2

def isDigit (c : Char) : Bool := '0' ≤ c && c ≤ '9'

def digitValue (c : Char) : Nat :=
  if isDigit c then c.toNat - '0'.toNat
  else if 'a' ≤ c ∧ c ≤ 'f' then c.toNat - 'a'.toNat + 10
  else c.toNat - 'A'.toNat + 10

def isHexDigit (c : Char) : Bool :=
  isDigit c || ('a' ≤ c && c ≤ 'f') || ('A' ≤ c && c ≤ 'F')

/-- The number that digits write in a base. -/
def numeral (base : Nat) (digits : List Char) : Nat :=
  digits.foldl (fun n c => n * base + digitValue c) 0

end Courier.Toml
