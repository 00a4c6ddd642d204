/-!
# Sets of code points

Sets of code points as ranges, with both ends included, in increasing order and without overlaps.
-/

namespace Courier

abbrev CodePoints := Array (Nat × Nat)

namespace CodePoints

/-- Looks for a code point among the ranges from `low` on and before `high`. -/
def search (ranges : CodePoints) (n : Nat) : Nat → Nat → Nat → Bool
  | 0, _, _ => false
  | fuel + 1, low, high =>
    if low < high then
      let middle := (low + high) / 2
      match ranges[middle]? with
      | none => false
      | some (first, last) =>
        if n < first then search ranges n fuel low middle
        else if last < n then search ranges n fuel (middle + 1) high
        else true
    else false

/-- Whether a character is in the set, found by halving. -/
def contains (ranges : CodePoints) (c : Char) : Bool :=
  ranges.search c.toNat (ranges.size.log2 + 1) 0 ranges.size

end CodePoints

end Courier
