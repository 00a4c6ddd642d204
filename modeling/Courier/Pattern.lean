import Courier.CharSet

/-!
# Patterns of text

Patterns that texts are described by. A pattern may have several ways to read a text, and they are
in an order: an earlier alternative goes before a later one, and what repeats goes on before it
ends, or ends before it goes on if it is not eager.

Patterns are kept in one form: no sequence is a part of another, neighbouring texts are one text,
no choice is an alternative of another, and what all alternatives begin with stands before them.
The last of these may change the order of the ways: of two sequences that begin with a repetition
the first no longer goes before the second with every number of repetitions.
-/

namespace Courier

/-- Conditions on the place where a reading is. Lines end with a line feed or, for the last two,
with a carriage return, a line feed or both. -/
inductive Look where
  | textStart
  | textEnd
  | wordEdge
  | noWordEdge
  | wordStart
  | wordEnd
  | lineStart
  | lineEnd
  | anyLineStart
  | anyLineEnd
  deriving DecidableEq, Repr

namespace Look

/-- Whether a word of ASCII characters may have a character. -/
def isWord (c : Option Char) : Bool := c.any CharSet.word.contains

/-- Whether a condition holds between two characters, where an end of the text has none. -/
def holds (l : Look) (before after : Option Char) : Bool :=
  match l with
  | .textStart => before.isNone
  | .textEnd => after.isNone
  | .wordEdge => isWord before != isWord after
  | .noWordEdge => isWord before == isWord after
  | .wordStart => !isWord before && isWord after
  | .wordEnd => isWord before && !isWord after
  | .lineStart => before.isNone || before = some '\n'
  | .lineEnd => after.isNone || after = some '\n'
  | .anyLineStart =>
    before.isNone || before = some '\n' || (before = some '\r' && after ≠ some '\n')
  | .anyLineEnd => after.isNone || after = some '\r' || (after = some '\n' && before ≠ some '\r')

end Look

/-- How often something is repeated. -/
inductive Times where
  | atMostOnce
  | anyNumber
  | atLeastOnce
  deriving DecidableEq, Repr

inductive Pattern where
  | empty
  | text (cs : List Char)
  /-- One character of a set. Sets that were written for ASCII differ from others. -/
  | one (set : CharSet) (isAscii : Bool)
  | look (l : Look)
  | repeated (p : Pattern) (times : Times) (eager : Bool)
  /-- A group with a number of its own, which it is told from others by. -/
  | group (number : Nat) (p : Pattern)
  | join (p q : Pattern)
  | either (p q : Pattern)
  deriving DecidableEq, Repr

namespace Pattern

/-! ### The form that patterns are kept in -/

/-- One character of a set, or a text if the set has one member. -/
def ofSet (set : CharSet) (isAscii : Bool) : Pattern :=
  match set.single? with
  | some c => .text [c]
  | none => .one set (isAscii || set = .empty)

/-- Whether a pattern can only read the empty text. -/
def isVoid : Pattern → Bool
  | .empty | .look _ => true
  | .text _ | .one _ _ => false
  | .repeated p times _ => times = .atMostOnce && p.isVoid
  | .group _ p => p.isVoid
  | .join p q | .either p q => p.isVoid && q.isVoid

/-- The repetition of a pattern. There is no point in repeating the empty text. -/
def many (p : Pattern) (times : Times) (eager : Bool) : Pattern :=
  if p.isVoid then
    match times with
    | .atMostOnce | .anyNumber => .repeated p .atMostOnce eager
    | .atLeastOnce => p
  else .repeated p times eager

/-- What a pattern is a sequence of. -/
def parts : Pattern → List Pattern
  | .empty => []
  | .join p q => p :: q.parts
  | p => [p]

/-- The sequence of some parts. -/
def ofParts : List Pattern → Pattern
  | [] => .empty
  | [p] => p
  | p :: rest => .join p (ofParts rest)

/-- Makes one text of those that follow one another. -/
def fuse : List Pattern → List Pattern
  | .text cs :: rest =>
    match fuse rest with
    | .text ds :: rest => .text (cs ++ ds) :: rest
    | rest => .text cs :: rest
  | p :: rest => p :: fuse rest
  | [] => []

def sequence (ps : List Pattern) : Pattern := ofParts (fuse (ps.flatMap parts))

def alternatives : Pattern → List Pattern
  | .either p q => p :: q.alternatives
  | p => [p]

def ofAlternatives : List Pattern → Pattern
  | [] => .one .empty true
  | [p] => p
  | p :: rest => .either p (ofAlternatives rest)

/-- The set that alternatives come to if all of them are texts of one character. -/
def members? : List Pattern → Option CharSet
  | [] => some .empty
  | .text [c] :: rest => (members? rest).map ((CharSet.single c).union ·)
  | _ => none

/-- The set that alternatives come to if all of them are sets. -/
def union? : List Pattern → Option CharSet
  | [] => some .empty
  | .one set _ :: rest => (union? rest).map (set.union ·)
  | _ => none

/-- Alternatives as one set, where they come to one. -/
def unite (ps : List Pattern) : Pattern :=
  match members? ps <|> union? ps with
  | some set => ofSet set false
  | none => ofAlternatives ps

/-- The parts that two sequences begin with. -/
def shared : List Pattern → List Pattern → List Pattern
  | p :: ps, q :: qs => if p = q then p :: shared ps qs else []
  | _, _ => []

/-- The parts of a sequence of at least two, which others may begin with too. -/
def beginning : Pattern → List Pattern
  | .join p q => p :: q.parts
  | _ => []

/-- What all of some alternatives begin with. -/
def beginnings : List Pattern → List Pattern
  | [] => []
  | [p] => p.beginning
  | p :: rest => shared p.beginning (beginnings rest)

/-- The choice between some patterns. -/
def choice (ps : List Pattern) : Pattern :=
  let ps := ps.flatMap alternatives
  match unite ps, beginnings ps with
  | .either _ _, common@(_ :: _) =>
    let rests := ps.map fun p => ofParts (p.parts.drop common.length)
    sequence (common ++ [unite (rests.flatMap alternatives)])
  | p, _ => p

end Pattern

end Courier
