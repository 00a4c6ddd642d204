/-!
# Binary floating-point numbers

Binary floating-point numbers of 64 bits, as exact integers. `nearest` rounds a decimal to one, a
tie going to the even mantissa; `text` is the shortest decimal that rounds back, of several the
nearest, of two as near the larger, written without an exponent.
-/

namespace Courier

/-- A finite number is `mantissa * 2 ^ exponent`, with a mantissa below 2^53 and an exponent of at
least -1074. -/
inductive Binary64 where
  | finite (negative : Bool) (mantissa : Nat) (exponent : Int)
  | infinite (negative : Bool)
  | nan
  deriving DecidableEq, Repr

namespace Binary64

/-- The least mantissa that has all 53 bits, 2^52. -/
def leastNormal : Nat := 4503599627370496

/-- The quotient rounded to the nearest whole number, a half to the even one. -/
def roundDiv (num den : Nat) : Nat :=
  let q := num / den
  let twice := 2 * (num % den)
  if den < twice ∨ (twice = den ∧ q % 2 = 1) then q + 1 else q

/-- `n * base ^ e` as a numerator and a denominator. -/
def scaled (n base : Nat) (e : Int) : Nat × Nat :=
  if 0 ≤ e then (n * Nat.pow base e.toNat, 1) else (n, Nat.pow base (-e).toNat)

/-- The number nearest to `num / den`, for positive `num` and `den`. -/
def nearestQuotient (negative : Bool) (num den : Nat) : Binary64 :=
  let estimate : Int := (Nat.log2 num : Int) - Nat.log2 den - 52
  let at_ (q : Int) : Nat × Nat :=
    if 0 ≤ q then (num, den * Nat.pow 2 q.toNat) else (num * Nat.pow 2 (-q).toNat, den)
  let fits (q : Int) : Bool := leastNormal ≤ (at_ q).1 / (at_ q).2
  let q := max (if fits estimate then estimate else estimate - 1) (-1074)
  let m := roundDiv (at_ q).1 (at_ q).2
  let (m, q) := if m = 2 * leastNormal then (leastNormal, q + 1) else (m, q)
  if 971 < q then .infinite negative else .finite negative m q

/-- The number nearest to `digits * 10 ^ exponent`. A decimal with its first digit far outside the
range of finite numbers is decided by that digit's place alone. -/
def nearest (negative : Bool) (digits : Nat) (exponent : Int) : Binary64 :=
  let place : Int := (Nat.toDigits 10 digits).length + exponent
  if digits = 0 ∨ place < -330 then .finite negative 0 (-1074)
  else if 310 < place then .infinite negative
  else
    let (num, den) := scaled digits 10 exponent
    nearestQuotient negative num den

/-- The shortest `c * 10 ^ s` that rounds to `mantissa * 2 ^ exponent`, for a positive mantissa. -/
def shortest (mantissa : Nat) (exponent : Int) : Nat × Int :=
  let unit := exponent - 2
  let low :=
    if mantissa = leastNormal ∧ -1074 < exponent then 4 * mantissa - 1 else 4 * mantissa - 2
  let (num, den) := scaled (4 * mantissa) 2 unit
  let (lowNum, _) := scaled low 2 unit
  let (highNum, _) := scaled (4 * mantissa + 2) 2 unit
  let inside (c : Nat) (s : Int) : Bool :=
    let (cNum, cDen) := scaled c 10 s
    if mantissa % 2 = 0 then lowNum * cDen ≤ cNum * den ∧ cNum * den ≤ highNum * cDen
    else lowNum * cDen < cNum * den ∧ cNum * den < highNum * cDen
  let distance (c : Nat) (s : Int) : Nat :=
    let (cNum, cDen) := scaled c 10 s
    max (cNum * den) (num * cDen) - min (cNum * den) (num * cDen)
  let place : Int :=
    if den ≤ num then (Nat.toDigits 10 (num / den)).length - 1
    else -((Nat.toDigits 10 ((den - 1) / num)).length : Int)
  let onGrid (n : Nat) : Option (Nat × Int) :=
    let s : Int := place + 1 - n
    let (gridNum, gridDen) := scaled 1 10 s
    let below := num * gridDen / (den * gridNum)
    match inside below s, inside (below + 1) s with
    | true, true => some (if distance below s < distance (below + 1) s then below else below + 1, s)
    | true, false => some (below, s)
    | false, true => some (below + 1, s)
    | false, false => none
  let (c, s) := ((List.range 17).findSome? fun n => onGrid (n + 1)).getD (0, 0)
  if c % 10 = 0 then (c / 10, s + 1) else (c, s)

/-- `c * 10 ^ s` written out, with at least one digit after the point. -/
def positional (c : Nat) (s : Int) : String :=
  let digits := Nat.toDigits 10 c
  if 0 ≤ s then String.ofList (digits ++ List.replicate s.toNat '0') ++ ".0"
  else
    let places := (-s).toNat
    let padded := List.replicate (places + 1 - digits.length) '0' ++ digits
    let whole := padded.length - places
    String.ofList (padded.take whole ++ '.' :: padded.drop whole)

def text : Binary64 → String
  | .nan => "NaN"
  | .infinite negative => if negative then "-inf" else "inf"
  | .finite negative mantissa exponent =>
    let (c, s) := if mantissa = 0 then (0, 0) else shortest mantissa exponent
    (if negative then "-" else "") ++ positional c s

end Binary64

end Courier
