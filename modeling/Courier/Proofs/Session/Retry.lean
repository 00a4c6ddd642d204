import Courier.Proofs.Span
import Courier.Session.Retry

/-!
# The time that a policy allows

From the spans that settings are made with to the moment at which the time to connect is up: what a
policy keeps of them, when its time is up counted from any start, and when it never is.
-/

namespace Courier

namespace RetryPolicy

variable {p : RetryPolicy} {started earlier now later t : Instant} {budget elapsed : Span}

theorem deadline?_eq_some (h : p.deadline? started = some t) :
    ∃ budget, p.timeout = some budget ∧ started.after? budget = some t :=
  Option.bind_eq_some_iff.mp h

theorem deadline?_mono (order : started ≤ later) (h : p.deadline? later = some t) :
    ∃ t', p.deadline? started = some t' ∧ t' ≤ t := by
  obtain ⟨budget, timeout, shown⟩ := deadline?_eq_some h
  obtain ⟨t', shown', le⟩ := Instant.after?_mono order shown
  exact ⟨t', Option.bind_eq_some_iff.mpr ⟨budget, timeout, shown'⟩, le⟩

/-- There is no end to the time of a policy that has none, or whose end the clock cannot show. -/
theorem deadline?_eq_none_iff : p.deadline? started = none ↔
    p.timeout = none ∨ ∃ budget, p.timeout = some budget ∧ started.after? budget = none := by
  unfold deadline?
  cases p.timeout with
  | none => simp
  | some budget => simp

theorem isExhausted_iff : p.isExhausted started now ↔
    ∃ deadline, p.deadline? started = some deadline ∧ deadline ≤ now := by
  unfold isExhausted
  cases p.deadline? started <;> simp

theorem isExhausted_after_iff (timeout : p.timeout = some budget)
    (shown : started.after? elapsed = some now) :
    p.isExhausted started now ↔ (started.after? budget).isSome ∧ budget ≤ elapsed := by
  have sum := Instant.after?_eq_some_iff.mp shown
  -- Both ends count from the same start, so the earlier one belongs to the shorter span.
  have order {deadline : Instant} (limit : started.after? budget = some deadline) :
      deadline ≤ now ↔ budget ≤ elapsed := by
    have end_ := Instant.after?_eq_some_iff.mp limit
    show deadline.toNanos ≤ now.toNanos ↔ budget.toNanos ≤ elapsed.toNanos
    omega
  rw [isExhausted_iff, deadline?, timeout]
  constructor
  · rintro ⟨deadline, limit, past⟩
    exact ⟨Option.isSome_iff_exists.mpr ⟨deadline, limit⟩, (order limit).mp past⟩
  · rintro ⟨shows, enough⟩
    obtain ⟨deadline, limit⟩ := Option.isSome_iff_exists.mp shows
    exact ⟨deadline, limit, (order limit).mpr enough⟩

theorem isExhausted_mono (onward : now ≤ later) (spent : p.isExhausted started now) :
    p.isExhausted started later := by
  obtain ⟨deadline, limit, past⟩ := isExhausted_iff.mp spent
  exact isExhausted_iff.mpr ⟨deadline, limit, Instant.le_trans past onward⟩

theorem isExhausted_of_unlimited (unlimited : p.deadline? started = none) :
    p.isExhausted started now = false := by
  rw [isExhausted, unlimited]
  rfl

/-- Only without any time at all is it up at once. -/
theorem isExhausted_self_iff : p.isExhausted started started ↔ p.timeout = some .zero := by
  have here := Instant.after?_zero started
  constructor
  · intro spent
    obtain ⟨deadline, limit, -⟩ := isExhausted_iff.mp spent
    obtain ⟨budget, timeout, -⟩ := deadline?_eq_some limit
    have nothing := ((isExhausted_after_iff timeout here).mp spent).2
    rw [timeout, Span.eq_zero_iff.mpr (Nat.le_zero.mp nothing)]
  · intro timeout
    refine (isExhausted_after_iff timeout here).mpr ⟨?_, Nat.le_refl _⟩
    rw [here]
    rfl

/-- How a policy measures the time since a start. -/
structure Measures (p : RetryPolicy) : Prop where
  /-- Its time is up once as much has gone by, if the clock can show that moment. -/
  spent (budget : Span) : p.timeout = some budget → ∀ started elapsed now,
    started.after? elapsed = some now →
      (p.isExhausted started now ↔ (started.after? budget).isSome ∧ budget ≤ elapsed)
  /-- The clock can show it if its seconds, with the one that may be carried, are few enough. -/
  shown (started : Instant) (budget : Span) : (started.after? budget).isSome ↔
    started.secs + budget.secs + started.carry budget < clockSecs
  stays (started : Instant) (elapsed elapsed' : Span) (now later : Instant) :
    started.after? elapsed = some now → started.after? elapsed' = some later →
      elapsed ≤ elapsed' → p.isExhausted started now → p.isExhausted started later
  endless (started now : Instant) :
    (p.timeout = none ∨ ∃ budget, p.timeout = some budget ∧ started.after? budget = none) →
      p.isExhausted started now = false
  atOnce (started : Instant) : p.isExhausted started started ↔ p.timeout = some .zero

theorem measures (p : RetryPolicy) : p.Measures where
  spent _ timeout _ _ _ shown := isExhausted_after_iff timeout shown
  shown _ _ := Instant.after?_isSome_iff_secs
  stays started elapsed elapsed' now later shown shown' longer spent := by
    have sum := Instant.after?_eq_some_iff.mp shown
    have sum' := Instant.after?_eq_some_iff.mp shown'
    have longer : elapsed.toNanos ≤ elapsed'.toNanos := longer
    have onward : now ≤ later := by
      show now.toNanos ≤ later.toNanos
      omega
    exact isExhausted_mono onward spent
  endless _ _ unlimited := isExhausted_of_unlimited (deadline?_eq_none_iff.mpr unlimited)
  atOnce _ := isExhausted_self_iff

theorem ofConfig_withConnectTimeout (c : Config) (d : Span) :
    ofConfig (c.withConnectTimeout d) = { ofConfig c with timeout := some d.inMillis } := rfl

theorem ofConfig_withRetryInterval (c : Config) (d : Span) :
    ofConfig (c.withRetryInterval d) = { ofConfig c with interval := d.inMillis } := rfl

/-- A policy keeps whole milliseconds of the spans it is made with, and measures by these exactly.
Its time is up at once just if it was made with less than one of them. -/
theorem time_exact (c : Config) :
    Span.CutsToMillis Span.inMillis ∧
    (∀ d, ofConfig (c.withConnectTimeout d) = { ofConfig c with timeout := some d.inMillis }) ∧
    (∀ d, ofConfig (c.withRetryInterval d) = { ofConfig c with interval := d.inMillis }) ∧
    (∀ p : RetryPolicy, p.Measures) ∧
    ∀ d started, (ofConfig (c.withConnectTimeout d)).isExhausted started started ↔
      d.toNanos < nanosPerMilli := by
  refine ⟨Span.cutsToMillis, ofConfig_withConnectTimeout c, ofConfig_withRetryInterval c, measures,
    fun d started => ?_⟩
  rw [isExhausted_self_iff, ofConfig_withConnectTimeout, Option.some.injEq,
    Span.inMillis_eq_zero_iff]

/-- Settings that leave seven tenths of a second to connect in. -/
def brisk : Config :=
  Config.withConnectTimeout ⟨{ subscribeTopic := "in", publishTopic := "out" }, {}⟩
    (Span.ofParts 0 700999999)

/-- The time is up where the nanoseconds have carried a second, and not one of them before. -/
theorem time_exact_acrossSeconds :
    let started : Instant := ⟨1500000000, by decide⟩
    let shorter : Span := ⟨699999999, by decide⟩
    ∃ early late, started.after? shorter = some early ∧
      started.after? (Span.ofMillis 700) = some late ∧
      late.secs = 2 ∧ late.subsecNanos = 200000000 ∧
      (ofConfig brisk).isExhausted started early = false ∧
      (ofConfig brisk).isExhausted started late := by
  obtain ⟨-, -, -, measures, -⟩ := time_exact brisk
  have spent := (measures (ofConfig brisk)).spent (Span.ofMillis 700) rfl ⟨1500000000, by decide⟩
  refine ⟨_, _, rfl, rfl, rfl, rfl, eq_false_of_ne_true fun now => ?_, ?_⟩
  · exact absurd ((spent ⟨699999999, by decide⟩ _ rfl).mp now).2 (by decide)
  · exact (spent (Span.ofMillis 700) _ rfl).mpr ⟨rfl, by decide⟩

end RetryPolicy

end Courier
