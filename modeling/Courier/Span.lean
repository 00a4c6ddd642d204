/-!
# Spans and instants

Spans of time and readings of a clock, both exact counts of nanoseconds. A span holds fewer than
2^64 seconds; a clock reads fewer than 2^63, so a deadline can lie past what the clock can show.
-/

namespace Courier

def nanosPerSec : Nat := 1000000000

def nanosPerMilli : Nat := 1000000

/-- The seconds that a clock can show, 2^63. -/
def clockSecs : Nat := 9223372036854775808

/-- A length of time. -/
structure Span where
  toNanos : Nat
  bounded : toNanos < UInt64.size * nanosPerSec
  deriving DecidableEq

/-- A reading of the clock, as the time since its origin. -/
structure Instant where
  toNanos : Nat
  bounded : toNanos < clockSecs * nanosPerSec
  deriving DecidableEq

namespace Span

def secs (d : Span) : Nat := d.toNanos / nanosPerSec

def subsecNanos (d : Span) : Nat := d.toNanos % nanosPerSec

def zero : Span := ⟨0, by decide⟩

/-- The longest span, one nanosecond short of 2^64 seconds. -/
def longest : Span := ⟨UInt64.size * nanosPerSec - 1, by decide⟩

def ofMillis (ms : UInt64) : Span :=
  ⟨ms.toNat * nanosPerMilli, by
    have := ms.toNat_lt; simp only [nanosPerMilli, nanosPerSec, UInt64.size]; omega⟩

def ofSecs (s : UInt64) : Span :=
  ⟨s.toNat * nanosPerSec, by
    have := s.toNat_lt; simp only [nanosPerSec, UInt64.size]; omega⟩

/-- The span of some seconds and nanoseconds, cut to the longest one. -/
def ofParts (secs nanos : Nat) : Span :=
  if h : secs * nanosPerSec + nanos < UInt64.size * nanosPerSec then ⟨_, h⟩ else longest

/-- Whole milliseconds, at most 2^64 - 1. -/
def toMillis (d : Span) : UInt64 :=
  UInt64.ofNat (min (d.toNanos / nanosPerMilli) (UInt64.size - 1))

/-- The digits of `n` after a point, `width` places with the trailing zeros dropped; nothing for
zero. -/
def fraction (width n : Nat) : List Char :=
  let digits := Nat.toDigits 10 n
  let padded := List.replicate (width - digits.length) '0' ++ digits
  match (padded.reverse.dropWhile (· == '0')).reverse with
  | [] => []
  | kept => '.' :: kept

/-- A span in the largest unit of which it holds at least one. -/
def text (d : Span) : String :=
  let inUnit (one : Nat) (width : Nat) (unit : String) : String :=
    (d.toNanos / one).repr ++ String.ofList (fraction width (d.toNanos % one)) ++ unit
  if d.toNanos ≥ nanosPerSec then inUnit nanosPerSec 9 "s"
  else if d.toNanos ≥ 1000000 then inUnit 1000000 6 "ms"
  else if d.toNanos ≥ 1000 then inUnit 1000 3 "µs"
  else inUnit 1 0 "ns"

instance : LE Span := ⟨fun a b => a.toNanos ≤ b.toNanos⟩

instance (a b : Span) : Decidable (a ≤ b) := inferInstanceAs (Decidable (a.toNanos ≤ b.toNanos))

end Span

namespace Instant

def origin : Instant := ⟨0, by decide⟩

/-- The instant a span later, if the clock can show it. -/
def after? (t : Instant) (d : Span) : Option Instant :=
  if h : t.toNanos + d.toNanos < clockSecs * nanosPerSec then some ⟨_, h⟩ else none

/-- The time from one instant to a later one, zero if there is none. -/
def since (t start : Instant) : Span :=
  ⟨t.toNanos - start.toNanos, by
    have := t.bounded; simp only [nanosPerSec, clockSecs, UInt64.size] at *; omega⟩

instance : LE Instant := ⟨fun a b => a.toNanos ≤ b.toNanos⟩

instance (a b : Instant) : Decidable (a ≤ b) :=
  inferInstanceAs (Decidable (a.toNanos ≤ b.toNanos))

end Instant

end Courier
