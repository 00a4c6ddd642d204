import Courier.Toml.Reader

/-!
# Dates and times

Dates and times. A date may be followed by a time of day, and that by an offset; every part is
checked against the calendar, none is kept.
-/

namespace Courier.Toml

/-- A number of exactly `width` digits between two bounds. -/
def fixedNumber (width low high : Nat) : Reader Nat := fun s =>
  let digits := s.take width
  let n := numeral 10 digits
  if digits.length = width ∧ digits.all isDigit ∧ low ≤ n ∧ n ≤ high then some (n, s.drop width)
  else none

def daysInMonth (year month : Nat) : Nat :=
  if month = 2 then
    if year % 4 = 0 ∧ (year % 100 ≠ 0 ∨ year % 400 = 0) then 29 else 28
  else if month ∈ [4, 6, 9, 11] then 30
  else 31

def date (s : List Char) : Option (List Char) := do
  let (year, rest) ← fixedNumber 4 0 9999 s
  let (month, rest) ← (expect '-' rest) >>= fixedNumber 2 1 12
  let (_, rest) ← (expect '-' rest) >>= fixedNumber 2 1 (daysInMonth year month)
  return rest

/-- A time of day; a leap second is allowed, and so is any number of decimal places. -/
def timeOfDay (s : List Char) : Option (List Char) := do
  let (_, rest) ← fixedNumber 2 0 23 s
  let (_, rest) ← (expect ':' rest) >>= fixedNumber 2 0 59
  let (_, rest) ← (expect ':' rest) >>= fixedNumber 2 0 60
  match rest with
  | '.' :: c :: more => if isDigit c then return more.dropWhile isDigit else return rest
  | _ => return rest

def offset : List Char → Option (List Char)
  | c :: rest =>
    if c = 'Z' ∨ c = 'z' then some rest
    else if c = '+' ∨ c = '-' then do
      let (_, rest) ← fixedNumber 2 0 23 rest
      let (_, rest) ← (expect ':' rest) >>= fixedNumber 2 0 59
      return rest
    else none
  | [] => none

/-- A date, a time of day, or both; a letter T or a space joins them. -/
def moment (s : List Char) : Option (List Char) :=
  match date s with
  | some rest =>
    let time : Option (List Char) :=
      match rest with
      | c :: rest => if c = 'T' ∨ c = 't' ∨ c = ' ' then timeOfDay rest else none
      | [] => none
    match time with
    | some rest => some ((offset rest).getD rest)
    | none => some rest
  | none => timeOfDay s

end Courier.Toml
