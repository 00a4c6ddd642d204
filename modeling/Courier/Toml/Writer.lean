/-!
# Writing text

How a text is written in a TOML document: in the plainest of the quoted forms that can hold it.
-/

namespace Courier.Toml

/-- A control character other than those that a line of text may hold. -/
def isControl (c : Char) : Bool := (c < ' ' && c ≠ '\t' && c ≠ '\n') || c = '\x7f'

/-- The length of the longest run of a character. -/
def longestRun (c : Char) : List Char → Nat :=
  let rec go (current best : Nat) : List Char → Nat
    | [] => best
    | d :: rest => if d = c then go (current + 1) (max best (current + 1)) rest else go 0 best rest
  go 0 0

/-- The quoted forms: on one line or on several, with escapes or without. -/
inductive QuoteForm where
  | line
  | rawLine
  | block
  | rawBlock
  deriving DecidableEq, Repr

/-- The first form that needs no escapes in the text, or else one with escapes. -/
def quoteForm (s : List Char) : QuoteForm :=
  let control := s.any isControl
  let backslash := s.contains '\\'
  let several := s.contains '\n'
  let quotes := longestRun '"' s
  let apostrophes := longestRun '\'' s
  if !control && !backslash && quotes = 0 && !several then .line
  else if !control && apostrophes = 0 && !several then .rawLine
  else if !control && !backslash && quotes ≤ 2 then .block
  else if !control && apostrophes ≤ 2 then .rawBlock
  else if several then .block
  else .line

/-- The four upper-case hexadecimal digits of a control character. -/
def hexFour (c : Char) : List Char :=
  let digits := (Nat.toDigits 16 c.toNat).map Char.toUpper
  List.replicate (4 - digits.length) '0' ++ digits

/-- A character between double quotes that cannot stand there as it is. -/
def escape? (c : Char) : Option (List Char) :=
  if c = '\t' then some ['\\', 't']
  else if c = '\x08' then some ['\\', 'b']
  else if c = '\x0c' then some ['\\', 'f']
  else if c = '\r' then some ['\\', 'r']
  else if c = '\\' then some ['\\', '\\']
  else if isControl c then some ('\\' :: 'u' :: hexFour c)
  else none

/-- The text between the quotes of a form with escapes, in which at most `free` quotes in a row
stand as they are; `run` of them came just before. -/
def escapeAll (free : Nat) : Nat → List Char → List Char
  | _, [] => []
  | run, c :: rest =>
    if c = '"' then
      if run < free then '"' :: escapeAll free (run + 1) rest
      else '\\' :: '"' :: escapeAll free 0 rest
    else match escape? c with
      | some e => e ++ escapeAll free 0 rest
      | none => c :: escapeAll free 0 rest

/-- A text as a document writes it. A form for several lines starts on a line of its own if the
text has a line break. -/
def quote (s : List Char) : List Char :=
  let opening := if s.contains '\n' then ['\n'] else []
  match quoteForm s with
  | .line => ['"'] ++ escapeAll 0 0 s ++ ['"']
  | .rawLine => ['\''] ++ s ++ ['\'']
  | .block => ['"', '"', '"'] ++ opening ++ escapeAll 2 0 s ++ ['"', '"', '"']
  | .rawBlock => ['\'', '\'', '\''] ++ opening ++ s ++ ['\'', '\'', '\'']

end Courier.Toml
