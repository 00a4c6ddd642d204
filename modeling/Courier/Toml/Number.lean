import Courier.Toml.Value
import Courier.Toml.Reader

/-!
# Numbers

Integers and floating-point numbers. A run of digits may hold underscores, each between two digits.
An integer fits 64 bits with a sign; a number above the largest finite one is refused, one below
the smallest is minus infinity.
-/

namespace Courier.Toml

/-- One or more digits of a class, underscores left out. -/
def digitRun (isDigit : Char → Bool) : Reader (List Char)
  | [] => none
  | c :: rest =>
    if isDigit c then
      let next : Reader Char := fun
        | '_' :: d :: rest => if isDigit d then some (d, rest) else none
        | d :: rest => if isDigit d then some (d, rest) else none
        | [] => none
      let (more, rest) := many next rest
      some (c :: more, rest)
    else none

/-- A sign, true for a minus. -/
def sign : List Char → Bool × List Char
  | '+' :: rest => (false, rest)
  | '-' :: rest => (true, rest)
  | s => (false, s)

/-- A whole number without leading zeros. -/
def whole : Reader (List Char)
  | '0' :: rest => some (['0'], rest)
  | s => digitRun isDigit s

def signed (negative : Bool) (n : Nat) : Int := if negative then -n else n

def inRange (n : Int) : Bool := -9223372036854775808 ≤ n && n ≤ 9223372036854775807

/-- An integer in a base other than ten, after its mark. -/
def basedInteger (base : Nat) (isDigit : Char → Bool) : Reader Value := fun s => do
  let (digits, rest) ← digitRun isDigit s
  let n : Int := numeral base digits
  if inRange n then return (.integer n, rest) else none

def exponent : Reader Int := fun
  | c :: rest =>
    if c = 'e' ∨ c = 'E' then do
      let (negative, rest) := sign rest
      let (digits, rest) ← digitRun isDigit rest
      return (signed negative (numeral 10 digits), rest)
    else none
  | [] => none

/-- A floating-point number, unless it is too large. -/
def floatOf (negative : Bool) (digits : List Char) (e : Int) (rest : List Char) :
    Option (Value × List Char) :=
  match Binary64.nearest negative (numeral 10 digits) e with
  | .infinite false => none
  | x => some (.float x, rest)

/-- A number in base ten: an integer, or a floating-point number if a fraction or an exponent
follows. -/
def decimalNumber : Reader Value := fun s => do
  let (negative, rest) := sign s
  let (digits, rest) ← whole rest
  match rest with
  | '.' :: rest =>
    let (places, rest) ← digitRun isDigit rest
    let (e, rest) := (exponent rest).getD (0, rest)
    floatOf negative (digits ++ places) (e - places.length) rest
  | rest =>
    match exponent rest with
    | some (e, rest) => floatOf negative digits e rest
    | none =>
      let n := signed negative (numeral 10 digits)
      if inRange n then return (.integer n, rest) else none

/-- Infinity or the number that is none, with a sign. -/
def specialNumber : Reader Value := fun s =>
  match sign s with
  | (negative, 'i' :: 'n' :: 'f' :: rest) => some (.float (.infinite negative), rest)
  | (_, 'n' :: 'a' :: 'n' :: rest) => some (.float .nan, rest)
  | _ => none

def number : Reader Value
  | '0' :: 'x' :: rest => basedInteger 16 isHexDigit rest
  | '0' :: 'o' :: rest => basedInteger 8 (fun c => '0' ≤ c && c ≤ '7') rest
  | '0' :: 'b' :: rest => basedInteger 2 (fun c => c = '0' || c = '1') rest
  | s => (specialNumber s).or (decimalNumber s)

end Courier.Toml
