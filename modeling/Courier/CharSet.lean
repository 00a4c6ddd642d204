/-!
# Sets of characters

Sets of characters as ranges of code points in increasing order, with both ends included and at
least one code point between two of them. Surrogates are no characters, so no set has them.
-/

namespace Courier

structure CharSet where
  ranges : List (Nat × Nat)
  deriving DecidableEq, Repr

namespace CharSet

def empty : CharSet := ⟨[]⟩

def contains (s : CharSet) (c : Char) : Bool :=
  s.ranges.any fun (first, last) => first ≤ c.toNat && c.toNat ≤ last

/-- Adds a range and makes one range of those that it touches. -/
def insert (r : Nat × Nat) : List (Nat × Nat) → List (Nat × Nat)
  | [] => [r]
  | (first, last) :: rest =>
    if r.2 + 1 < first then r :: (first, last) :: rest
    else if last + 1 < r.1 then (first, last) :: insert r rest
    else insert (min first r.1, max last r.2) rest

def union (s t : CharSet) : CharSet := ⟨s.ranges.foldr insert t.ranges⟩

/-- The code points from one on that are in no range. -/
def gaps (n : Nat) : List (Nat × Nat) → List (Nat × Nat)
  | [] => if n ≤ 0x10FFFF then [(n, 0x10FFFF)] else []
  | (first, last) :: rest =>
    if n < first then (n, first - 1) :: gaps (last + 1) rest else gaps (last + 1) rest

def surrogates : Nat × Nat := (0xD800, 0xDFFF)

def complement (s : CharSet) : CharSet := ⟨gaps 0 (insert surrogates s.ranges)⟩

def inter (s t : CharSet) : CharSet := (s.complement.union t.complement).complement

def diff (s t : CharSet) : CharSet := s.inter t.complement

def symmDiff (s t : CharSet) : CharSet := (s.union t).diff (s.inter t)

/-- The characters from one to another. Surrogates between them are lost in the complement. -/
def range (first last : Char) : CharSet :=
  (complement ⟨[(first.toNat, last.toNat)]⟩).complement

def single (c : Char) : CharSet := ⟨[(c.toNat, c.toNat)]⟩

/-- The only member of a set. -/
def single? (s : CharSet) : Option Char :=
  match s.ranges with
  | [(first, last)] => if first = last then some (Char.ofNat first) else none
  | _ => none

def ofRanges (ranges : List (Char × Char)) : CharSet :=
  ⟨ranges.foldr (fun (first, last) => insert (first.toNat, last.toNat)) []⟩

def ofChars (cs : List Char) : CharSet := ofRanges (cs.map fun c => (c, c))

/-! ### Sets of ASCII characters -/

def digits : CharSet := ofRanges [('0', '9')]

def upper : CharSet := ofRanges [('A', 'Z')]

def lower : CharSet := ofRanges [('a', 'z')]

def letters : CharSet := upper.union lower

/-- What words are made of. -/
def word : CharSet := (letters.union digits).union (single '_')

def blanks : CharSet := ofRanges [('\t', '\r'), (' ', ' ')]

/-- The set that a name stands for. -/
def named? (name : String) : Option CharSet :=
  match name with
  | "alnum" => some (letters.union digits)
  | "alpha" => some letters
  | "ascii" => some (ofRanges [('\x00', '\x7f')])
  | "blank" => some (ofChars ['\t', ' '])
  | "cntrl" => some (ofRanges [('\x00', '\x1f'), ('\x7f', '\x7f')])
  | "digit" => some digits
  | "graph" => some (ofRanges [('!', '~')])
  | "lower" => some lower
  | "print" => some (ofRanges [(' ', '~')])
  | "punct" => some ((ofRanges [('!', '~')]).diff (letters.union digits))
  | "space" => some blanks
  | "upper" => some upper
  | "word" => some word
  | "xdigit" => some (ofRanges [('0', '9'), ('A', 'F'), ('a', 'f')])
  | _ => none

/-- The set with the ASCII letters that differ from its members in case. -/
def inBothCases (s : CharSet) : CharSet :=
  let moved (t : CharSet) (f : Nat → Nat) : CharSet :=
    ⟨(s.inter t).ranges.map fun (first, last) => (f first, f last)⟩
  (s.union (moved upper (· + 32))).union (moved lower (· - 32))

end CharSet

end Courier
