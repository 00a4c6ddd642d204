import Courier.CharSet
import Courier.CodePoints.Blank

/-!
# Flags of patterns

Flags change how the rest of a group is read. A group can begin with letters that set flags and,
after a minus, letters that take them back.
-/

namespace Courier.Pattern

structure Flags where
  /-- `i`: letters stand for both of their cases. -/
  anyCase : Bool := false
  /-- `m`: `^` and `$` stand for the ends of lines. -/
  byLine : Bool := false
  /-- `s`: a point stands for line feeds too. -/
  dotAll : Bool := false
  /-- `U`: repetitions are eager with a question mark, and not without. -/
  swapped : Bool := false
  /-- `u`: characters are those of Unicode, not bytes. -/
  unicode : Bool := true
  /-- `R`: lines may end with carriage returns. -/
  carriage : Bool := false
  /-- `x`: blanks and comments do not count. -/
  spaced : Bool := false
  deriving DecidableEq, Repr

namespace Flags

/-- The flags with the one of a letter set or taken back. -/
def set? (f : Flags) (letter : Char) (on : Bool) : Option Flags :=
  match letter with
  | 'i' => some { f with anyCase := on }
  | 'm' => some { f with byLine := on }
  | 's' => some { f with dotAll := on }
  | 'U' => some { f with swapped := on }
  | 'u' => some { f with unicode := on }
  | 'R' => some { f with carriage := on }
  | 'x' => some { f with spaced := on }
  | _ => none

/-- Reads letters up to a colon or a closing parenthesis, no letter twice, and at most one minus
with a letter after it. Letters seen already come last first. -/
def change? (seen : List Char) (on : Bool) (f : Flags) :
    List Char → Option (Flags × List Char)
  | [] => none
  | c :: rest =>
    if c = ':' then if seen.head? = some '-' then none else some (f, c :: rest)
    else if c = ')' then if seen = [] ∨ seen.head? = some '-' then none else some (f, c :: rest)
    else if c ∈ seen then none
    else if c = '-' then change? (c :: seen) false f rest
    else (f.set? c on).bind fun f => change? (c :: seen) on f rest

/-- What is left after blanks and comments, which begin with a number sign and end with a line. -/
def skipBlanks (inComment : Bool) : List Char → List Char
  | [] => []
  | c :: rest =>
    if inComment then skipBlanks (c ≠ '\n') rest
    else if CodePoints.isBlank c then skipBlanks false rest
    else if c = '#' then skipBlanks true rest
    else c :: rest

def skip (f : Flags) (s : List Char) : List Char := if f.spaced then skipBlanks false s else s

/-- The character that comes next, where one number sign counts as a blank. If there are only
blanks, it is the first of them. -/
def peek? (f : Flags) (s : List Char) : Option Char :=
  let visible := match s.dropWhile CodePoints.isBlank with
    | '#' :: rest => rest.dropWhile CodePoints.isBlank
    | rest => rest
  if f.spaced then visible.head? <|> s.head? else s.head?

/-- A set with both cases of its letters, if that is asked for. They are known for ASCII only. -/
def fold? (f : Flags) (set : CharSet) : Option CharSet :=
  if !f.anyCase then some set
  else if f.unicode then none
  else some set.inBothCases

end Flags

end Courier.Pattern
