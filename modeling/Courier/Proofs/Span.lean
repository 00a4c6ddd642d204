import Courier.Span

/-!
# Spans and instants, and their parts

The order of instants, what becomes of a span of which only whole milliseconds are kept, and which
instant a clock shows a span after another. A span and an instant are exact counts of nanoseconds;
here is also what happens to their seconds and to the nanoseconds beyond, where those of a sum may
carry one second.
-/

namespace Courier

namespace Span

variable {d d' : Span}

theorem eq_of_toNanos (h : d.toNanos = d'.toNanos) : d = d' := by
  obtain ⟨n, bounded⟩ := d
  obtain ⟨m, bounded'⟩ := d'
  cases h
  rfl

theorem eq_zero_iff : d = zero ↔ d.toNanos = 0 :=
  ⟨fun h => by rw [h]; rfl, fun h => eq_of_toNanos h⟩

theorem toNanos_eq (d : Span) : d.toNanos = d.secs * nanosPerSec + d.subsecNanos :=
  (Nat.div_add_mod' d.toNanos nanosPerSec).symm

theorem subsecNanos_lt (d : Span) : d.subsecNanos < nanosPerSec := Nat.mod_lt _ (by decide)

theorem toNanos_ofMillis (ms : UInt64) : (ofMillis ms).toNanos = ms.toNat * nanosPerMilli := rfl

theorem toNat_toMillis (d : Span) :
    d.toMillis.toNat = min (d.toNanos / nanosPerMilli) (UInt64.size - 1) := by
  refine UInt64.toNat_ofNat_of_lt ?_
  exact Nat.lt_of_le_of_lt (Nat.min_le_right _ _) (by decide)

/-- The milliseconds of the seconds, and those of the nanoseconds beyond. -/
theorem millis_eq (d : Span) :
    d.toNanos / nanosPerMilli = d.secs * 1000 + d.subsecNanos / nanosPerMilli := by
  rw [toNanos_eq]
  simp only [nanosPerSec, nanosPerMilli]
  omega

/-- A span of which only the whole milliseconds are kept, and at most 2^64 - 1 of them. -/
def inMillis (d : Span) : Span := ofMillis d.toMillis

theorem toNanos_inMillis (d : Span) :
    d.inMillis.toNanos = min (d.toNanos / nanosPerMilli) (UInt64.size - 1) * nanosPerMilli := by
  rw [inMillis, toNanos_ofMillis, toNat_toMillis]

/-- Whole milliseconds that there is room for are kept. -/
theorem inMillis_ofMillis (ms : UInt64) : (ofMillis ms).inMillis = ofMillis ms := by
  refine eq_of_toNanos ?_
  have room := ms.toNat_lt
  rw [toNanos_inMillis, toNanos_ofMillis, Nat.mul_div_cancel _ (by decide), Nat.min_eq_left]
  simp only [UInt64.size]
  omega

theorem inMillis_le (d : Span) : d.inMillis ≤ d := by
  show d.inMillis.toNanos ≤ d.toNanos
  rw [toNanos_inMillis]
  calc min (d.toNanos / nanosPerMilli) (UInt64.size - 1) * nanosPerMilli
      ≤ d.toNanos / nanosPerMilli * nanosPerMilli := Nat.mul_le_mul_right _ (Nat.min_le_left _ _)
    _ ≤ d.toNanos := Nat.div_mul_le_self _ _

theorem inMillis_mono (le : d ≤ d') : d.inMillis ≤ d'.inMillis := by
  show d.inMillis.toNanos ≤ d'.inMillis.toNanos
  rw [toNanos_inMillis, toNanos_inMillis]
  have whole : d.toNanos / nanosPerMilli ≤ d'.toNanos / nanosPerMilli := Nat.div_le_div_right le
  exact Nat.mul_le_mul_right _ (by omega)

/-- With room for all its milliseconds, a span keeps them. -/
theorem toNanos_inMillis_of_lt (room : d.toNanos / nanosPerMilli < UInt64.size) :
    d.inMillis.toNanos = d.toNanos / nanosPerMilli * nanosPerMilli := by
  rw [toNanos_inMillis, Nat.min_eq_left (Nat.le_sub_one_of_lt room)]

theorem inMillis_of_le (full : UInt64.size ≤ d.toNanos / nanosPerMilli) :
    d.inMillis = ofMillis 18446744073709551615 := by
  refine eq_of_toNanos ?_
  rw [toNanos_inMillis, Nat.min_eq_right (Nat.le_trans (Nat.sub_le _ _) full)]
  rfl

theorem inMillis_eq_zero_iff : d.inMillis = zero ↔ d.toNanos < nanosPerMilli := by
  rw [eq_zero_iff, toNanos_inMillis]
  simp only [nanosPerMilli, UInt64.size]
  omega

/-- A way to cut spans down to whole milliseconds, of which at most 2^64 - 1 are kept. -/
structure CutsToMillis (cut : Span → Span) : Prop where
  le (d : Span) : cut d ≤ d
  /-- What is lost is shorter than one millisecond, unless there is no room for the rest. -/
  near (d : Span) : d.toNanos - (cut d).toNanos < nanosPerMilli ∨
    cut d = ofMillis 18446744073709551615
  mono (d d' : Span) : d ≤ d' → cut d ≤ cut d'
  idem (d : Span) : cut (cut d) = cut d
  /-- Where there is room, the seconds stay and so do the milliseconds beyond. -/
  parts (d : Span) : d.secs * 1000 + d.subsecNanos / nanosPerMilli < UInt64.size →
    (cut d).secs = d.secs ∧
    (cut d).subsecNanos = d.subsecNanos / nanosPerMilli * nanosPerMilli

theorem cutsToMillis : CutsToMillis inMillis where
  le := inMillis_le
  near d := by
    rcases Nat.lt_or_ge (d.toNanos / nanosPerMilli) UInt64.size with room | full
    · left
      rw [toNanos_inMillis_of_lt room]
      simp only [nanosPerMilli]
      omega
    · exact .inr (inMillis_of_le full)
  mono _ _ := inMillis_mono
  idem d := inMillis_ofMillis d.toMillis
  parts d room := by
    have whole := toNanos_inMillis_of_lt (by rw [millis_eq]; exact room)
    have beyond := d.subsecNanos_lt
    rw [millis_eq] at whole
    simp only [secs, subsecNanos, nanosPerSec, nanosPerMilli] at *
    omega

end Span

namespace Instant

variable {a b c : Instant} {d : Span}

theorem le_refl (a : Instant) : a ≤ a := Nat.le_refl a.toNanos

theorem le_trans (ab : a ≤ b) (bc : b ≤ c) : a ≤ c := Nat.le_trans ab bc

theorem le_of_not_le (h : ¬ a ≤ b) : b ≤ a := Nat.le_of_not_le h

theorem le_antisymm (ab : a ≤ b) (ba : b ≤ a) : a = b := by
  obtain ⟨n, inside⟩ := a
  obtain ⟨m, _⟩ := b
  obtain rfl : n = m := Nat.le_antisymm ab ba
  rfl

theorem after?_eq_some_iff : a.after? d = some b ↔ a.toNanos + d.toNanos = b.toNanos := by
  obtain ⟨m, inside⟩ := b
  unfold after?
  split
  · rename_i fits
    rw [Option.some.injEq, mk.injEq]
  · rename_i late
    refine ⟨nofun, fun same => ?_⟩
    change a.toNanos + d.toNanos = m at same
    exact absurd (same ▸ inside) late

theorem after?_zero (now : Instant) : now.after? .zero = some now := after?_eq_some_iff.mpr rfl

theorem after?_isSome_iff :
    (a.after? d).isSome ↔ a.toNanos + d.toNanos < clockSecs * nanosPerSec := by
  unfold after?
  split <;> simp [*]

theorem le_after? (h : a.after? d = some b) : a ≤ b :=
  Nat.le_trans (Nat.le_add_right _ _) (Nat.le_of_eq (after?_eq_some_iff.mp h))

/-- What a later clock can show, an earlier one can. -/
theorem after?_mono {t : Instant} (ab : a ≤ b) (h : b.after? d = some t) :
    ∃ t', a.after? d = some t' ∧ t' ≤ t := by
  have ab : a.toNanos ≤ b.toNanos := ab
  have sum := after?_eq_some_iff.mp h
  have fits := t.bounded
  exact ⟨⟨a.toNanos + d.toNanos, by omega⟩, after?_eq_some_iff.mpr rfl,
    Nat.le_trans (Nat.add_le_add_right ab _) (Nat.le_of_eq sum)⟩

def secs (t : Instant) : Nat := t.toNanos / nanosPerSec

def subsecNanos (t : Instant) : Nat := t.toNanos % nanosPerSec

/-- The second that the nanoseconds of an instant and those of a span may make together. -/
def carry (t : Instant) (d : Span) : Nat := (t.subsecNanos + d.subsecNanos) / nanosPerSec

/-- Whether the clock can show the end of a span is a matter of seconds. -/
theorem after?_isSome_iff_secs :
    (a.after? d).isSome ↔ a.secs + d.secs + a.carry d < clockSecs := by
  rw [after?_isSome_iff]
  simp only [carry, secs, subsecNanos, Span.secs, Span.subsecNanos, nanosPerSec, clockSecs]
  omega

end Instant

end Courier
