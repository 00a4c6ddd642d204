/-!
# UTF-8 as a byte machine

Broken input is cut into maximal subparts: the longest run of bytes that
some well-formed character begins with, or one byte that begins none. `lossy` puts U+FFFD in the
place of each, `strict?` refuses the text.
-/

namespace Courier.Utf8

/-- Where the machine stands: between characters, or `need` bytes before the end of one, the next
of them between `low` and `high`; `value` holds the bits read so far. -/
inductive State where
  | between
  | within (need low high value : Nat)
  deriving DecidableEq, Repr

/-- A decoded character, or `none` for one maximal broken subpart. -/
abbrev Piece := Option Char

/-- The pieces that a byte completes between characters, and the state after it. -/
def start (b : Nat) : List Piece × State :=
  if b < 0x80 then ([some (Char.ofNat b)], .between)
  else if b < 0xC2 then ([none], .between)
  else if b < 0xE0 then ([], .within 1 0x80 0xBF (b - 0xC0))
  else if b = 0xE0 then ([], .within 2 0xA0 0xBF 0)
  else if b = 0xED then ([], .within 2 0x80 0x9F 0xD)
  else if b < 0xF0 then ([], .within 2 0x80 0xBF (b - 0xE0))
  else if b = 0xF0 then ([], .within 3 0x90 0xBF 0)
  else if b < 0xF4 then ([], .within 3 0x80 0xBF (b - 0xF0))
  else if b = 0xF4 then ([], .within 3 0x80 0x8F 4)
  else ([none], .between)

/-- One byte. A byte that cannot continue the character under way breaks it and is then read as
the first of the next. -/
def step : State → Nat → List Piece × State
  | .between, b => start b
  | .within need low high value, b =>
    if low ≤ b ∧ b ≤ high then
      let value := value * 64 + (b - 0x80)
      if need = 1 then ([some (Char.ofNat value)], .between)
      else ([], .within (need - 1) 0x80 0xBF value)
    else
      let (pieces, next) := start b
      (none :: pieces, next)

/-- The pieces of the remaining bytes; a character under way at the end is broken. -/
def run : State → List UInt8 → List Piece
  | .between, [] => []
  | .within .., [] => [none]
  | s, b :: rest => (step s b.toNat).1 ++ run (step s b.toNat).2 rest

def pieces (bytes : List UInt8) : List Piece := run .between bytes

/-- The text of the bytes, each maximal broken subpart replaced by U+FFFD. -/
def lossy (bytes : List UInt8) : String :=
  String.ofList ((pieces bytes).map (·.getD '\uFFFD'))

/-- The text of the bytes if they are well-formed. -/
def strict? (bytes : List UInt8) : Option String :=
  (pieces bytes).mapM id |>.map String.ofList

def encode (text : String) : List UInt8 :=
  text.toList.flatMap String.utf8EncodeChar

end Courier.Utf8
