import Courier.Pattern

/-!
# Reading texts by patterns

A text meets a pattern if the preferred way to read a part of it reads up to its end. A way that
begins earlier is preferred to one that begins later; among those that begin at one place the order
of the pattern decides.

A pattern is laid out as a list of instructions, and all ways go through the text at once, byte by
byte, in the order of preference. Two ways that come to the same instruction at the same place are
one way from there on, with the preference of the first. As soon as a way has read the pattern to
its end, those behind it are given up.
-/

namespace Courier

namespace Pattern

inductive Instruction where
  /-- Reads one character of a set. -/
  | one (set : CharSet) (next : Nat)
  | anyByte (next : Nat)
  | look (l : Look) (next : Nat)
  /-- Goes on at two places, the first of them preferred. -/
  | fork (first second : Nat)
  | jump (next : Nat)
  | accept
  deriving DecidableEq, Repr

/-! ### The instructions of a pattern -/

/-- The number of instructions of a pattern. -/
def size : Pattern → Nat
  | .empty => 1
  | .text cs => cs.length + 1
  | .one _ _ => 1
  | .look _ => 1
  | .repeated p .anyNumber _ => p.size + 2
  | .repeated p _ _ => p.size + 1
  | .group _ p => p.size
  | .join p q => p.size + q.size
  | .either p q => p.size + q.size + 1

/-- The instructions that read a text. -/
def spell (next : Nat) : List Char → Nat → List Instruction
  | [], _ => [.jump next]
  | c :: cs, place => .one (.single c) (place + 1) :: spell next cs (place + 1)

/-- Goes round once more or on, and prefers the former if it is eager. -/
def loop (eager : Bool) (again next : Nat) : Instruction :=
  if eager then .fork again next else .fork next again

/-- The instructions of a pattern that begins at one place and goes on at another. Any number of
repetitions are laid out as at least one, or none. -/
def instructions : Pattern → Nat → Nat → List Instruction
  | .empty, _, next => [.jump next]
  | .text cs, place, next => spell next cs place
  | .one set _, _, next => [.one set next]
  | .look l, _, next => [.look l next]
  | .repeated p .atMostOnce eager, place, next =>
    loop eager (place + 1) next :: p.instructions (place + 1) next
  | .repeated p .atLeastOnce eager, place, next =>
    p.instructions place (place + p.size) ++ [loop eager place next]
  | .repeated p .anyNumber eager, place, next =>
    loop eager (place + 1) next :: p.instructions (place + 1) (place + 1 + p.size)
      ++ [loop eager (place + 1) next]
  | .group _ p, place, next => p.instructions place next
  | .join p q, place, next =>
    p.instructions place (place + p.size) ++ q.instructions (place + p.size) next
  | .either p q, place, next =>
    .fork (place + 1) (place + 1 + p.size)
      :: p.instructions (place + 1) next ++ q.instructions (place + 1 + p.size) next

/-- A pattern that may begin at any byte, and rather earlier than later. -/
def program (p : Pattern) : Array Instruction :=
  #[.fork 2 1, .anyByte 0] ++ (p.instructions 2 (2 + p.size)).toArray ++ #[.accept]

/-! ### Going through a text -/

/-- A way through a text: the instruction that it has come to, and the number of bytes of a
character that are left to pass before. -/
structure Way where
  place : Nat
  wait : Nat
  deriving DecidableEq, Repr

/-- Goes on from each way as far as it leads without reading. Places that were come to are marked,
and the ways found so far come last first. -/
def spread (code : Array Instruction) (before after : Option Char) :
    Nat → List Way → Array Bool → List Way → List Way
  | 0, _, _, found => found.reverse
  | _, [], _, found => found.reverse
  | fuel + 1, way :: ways, marked, found =>
    if way.wait ≠ 0 then spread code before after fuel ways marked (way :: found)
    else if marked.getD way.place true then spread code before after fuel ways marked found
    else
      let ways := match code[way.place]? with
        | some (.jump next) => ⟨next, 0⟩ :: ways
        | some (.fork first second) => ⟨first, 0⟩ :: ⟨second, 0⟩ :: ways
        | some (.look l next) => if l.holds before after then ⟨next, 0⟩ :: ways else ways
        | _ => ways
      spread code before after fuel ways (marked.setIfInBounds way.place true) (way :: found)

/-- All places that ways lead to without reading. Each instruction adds at most two. -/
def reach (code : Array Instruction) (before after : Option Char) (ways : List Way) : List Way :=
  spread code before after (ways.length + 2 * code.size + 1) ways (.replicate code.size false) []

def isDone (code : Array Instruction) (way : Way) : Bool :=
  way.wait = 0 && code[way.place]? = some .accept

/-- Where a way gets by a byte, which is the first of a character or a later one. -/
def step? (code : Array Instruction) (c : Char) (isFirst : Bool) (way : Way) : Option Way :=
  if way.wait ≠ 0 then some ⟨way.place, way.wait - 1⟩
  else match code[way.place]? with
    | some (.anyByte next) => some ⟨next, 0⟩
    | some (.one set next) =>
      if isFirst && set.contains c then some ⟨next, c.utf8Size - 1⟩ else none
    | _ => none

/-- The ways that are not given up after a byte. -/
def advance (code : Array Instruction) (c : Char) (isFirst : Bool) (ways : List Way) : List Way :=
  (ways.takeWhile (!isDone code ·)).filterMap (step? code c isFirst)

/-- The bytes of a text by the characters that they are part of. -/
def bytes (text : List Char) : List (Char × Bool) :=
  text.flatMap fun c => (c, true) :: List.replicate (c.utf8Size - 1) (c, false)

/-- Whether one of the ways has read the pattern where the bytes end. -/
def run (code : Array Instruction) (ways : List Way) (before : Option Char) :
    List (Char × Bool) → Bool
  | [] => (reach code before none ways).any (isDone code)
  | (c, isFirst) :: rest =>
    match advance code c isFirst (reach code before (some c) ways) with
    | [] => false
    | ways => run code ways (some c) rest

def accepts (p : Pattern) (text : List Char) : Bool :=
  run p.program [⟨0, 0⟩] none (bytes text)

end Pattern

end Courier
