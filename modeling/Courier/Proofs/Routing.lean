import Mathlib.Logic.Basic
import Mathlib.Tactic.ByContra
import Courier.Proofs.Traffic.Sound
import Courier.Registry.Rehearsal

/-!
# Where a message goes

The registry looks a topic up among its filters, and only then tries the filters with wildcards. In
a sound registry this finds a subscription exactly when some filter takes in the topic, and it
leaves the order of the table a choice only between filters with wildcards.
-/

namespace Courier

/-- What handing over a message does to a subscription, and what a callback asks for in return. -/
def Subscription.Took (before : Subscription) (m : Message) (after : Subscription)
    (orders : List Order) : Prop :=
  after.filter = before.filter ∧
  match before.delivery with
  | .queue box =>
    orders = [] ∧ ∃ box', after.delivery = .queue box' ∧ box'.pending = box.pending ++ [m]
  | .callback handler => after.delivery = .callback handler ∧ orders = handler m

@[simp] theorem Mailbox.pending_push (box : Mailbox) (m : Message) (chosen : Nat) :
    (box.push m chosen).pending = box.pending ++ [m] := by
  rw [push]
  split <;> rfl

theorem Subscription.take?_waiting (f : String) (m : Message) (rest : List Message) (now : Instant)
    (timeout : Option Span) :
    take? ⟨f, .queue ⟨m :: rest, [], []⟩⟩ now timeout =
      some (.ok m, ⟨f, .queue ⟨rest, [], []⟩⟩) := rfl

/-- Where no message comes a call returns at its deadline, if it has one. -/
theorem Subscription.take?_empty (f : String) (now : Instant) (timeout : Option Span) :
    take? ⟨f, .queue ⟨[], [], []⟩⟩ now timeout = (timeout >>= now.after?).map fun _ =>
      (.error (.receiveTimeout f), ⟨f, .queue ⟨[], [], []⟩⟩) := by
  simp only [take?, Mailbox.take?]
  generalize (timeout >>= now.after?) = deadline
  cases deadline with
  | none => rfl
  | some late =>
    have due : late ≤ late := Nat.le_refl late.toNanos
    simp [Mailbox.arrive, Mailbox.step?, Mailbox.giveUp, due]

theorem Subscription.took_deliver (sub : Subscription) (m : Message) :
    sub.Took m (sub.deliver m).1 (sub.deliver m).2 := by
  obtain ⟨f, _ | handler⟩ := sub
  · exact ⟨rfl, rfl, _, rfl, Mailbox.pending_push _ m 0⟩
  · exact ⟨rfl, rfl, rfl⟩

namespace Registry

/-- Routes a message and hands it over: whether a subscription took it, the registry afterwards, and
what a callback asks for in return. -/
def dispatch (r : Registry) (m : Message) : Bool × Registry × List Order :=
  match r.target? m.topic with
  | none => (false, r, [])
  | some id => (true, r.deliver id m)

/-- What a filter takes in among the filters of a table. -/
def Takes (r : Registry) (f topic : String) : Prop :=
  (∃ id, r.find? f = some id) ∧ filterMatches f topic = true

theorem Sound.find?_entry {r : Registry} (sound : r.Sound) {entry : String × SubscriptionId}
    (h : entry ∈ r.table) : r.find? entry.1 = some entry.2 :=
  (sound.find?_iff _ _).mpr h

theorem deliver_of_made {r : Registry} {id : SubscriptionId} {sub : Subscription}
    (h : r.made[id]? = some sub) (m : Message) :
    r.deliver id m = ({ r with made := r.made.set id (sub.deliver m).1 }, (sub.deliver m).2) := by
  rw [deliver, h]

theorem target?_of_exact {r : Registry} {topic : String} {id : SubscriptionId}
    (h : r.find? topic = some id) : r.target? topic = some id := by
  rw [target?, h]

/-- Without an exact filter the target is the first wildcard filter that takes in the topic. -/
theorem target?_of_inexact {r : Registry} {topic : String} (h : r.find? topic = none) :
    r.target? topic =
      (r.table.find? fun entry =>
        hasWildcards entry.1 && filterMatches entry.1 topic).map (·.2) := by
  rw [target?, h]

theorem Sound.takes_of_target? {r : Registry} (sound : r.Sound) {topic : String}
    {id : SubscriptionId} (h : r.target? topic = some id) :
    ∃ f, r.find? f = some id ∧ filterMatches f topic = true := by
  cases exact : r.find? topic with
  | some other =>
    rw [target?_of_exact exact] at h
    have flawless := sound.flawless_of_mem (mem_of_find? exact)
    exact ⟨topic, exact.trans h, filterMatches_self flawless⟩
  | none =>
    rw [target?_of_inexact exact] at h
    obtain ⟨entry, found, rfl⟩ := Option.map_eq_some_iff.mp h
    have wild := List.find?_some found
    rw [Bool.and_eq_true] at wild
    exact ⟨entry.1, sound.find?_entry (List.mem_of_find?_eq_some found), wild.2⟩

/-- A filter without wildcards takes in only itself, so the scan may leave it out. -/
theorem target?_eq_none_iff {r : Registry} (sound : r.Sound) (topic : String) :
    r.target? topic = none ↔ ∀ f, ¬ r.Takes f topic := by
  constructor
  · rintro h f ⟨⟨id, found⟩, taken⟩
    cases exact : r.find? topic with
    | some other =>
      rw [target?_of_exact exact] at h
      cases h
    | none =>
      rw [target?_of_inexact exact, Option.map_eq_none_iff] at h
      cases wild : hasWildcards f with
      | false =>
        rw [(filterMatches_iff_eq wild).mp taken, exact] at found
        cases found
      | true =>
        have passed := List.find?_eq_none.mp h (f, id) (mem_of_find? found)
        simp [wild, taken] at passed
  · intro h
    cases target : r.target? topic with
    | none => rfl
    | some id =>
      obtain ⟨f, found, taken⟩ := sound.takes_of_target? target
      exact absurd ⟨⟨id, found⟩, taken⟩ (h f)

/-- The target is the same for every order of the table if no two wildcard filters compete. -/
theorem target?_permuted {r : Registry} (sound : r.Sound) {table : List (String × SubscriptionId)}
    (perm : table.Perm r.table) (topic : String)
    (alone : r.find? topic = none → ∀ f g, r.Takes f topic → r.Takes g topic → f = g) :
    target? { r with table } topic = r.target? topic := by
  have sound' := sound.permuted perm
  have find_eq := sound'.find?_permuted sound perm
  cases exact : r.find? topic with
  | some id => rw [target?_of_exact exact, target?_of_exact ((find_eq topic).trans exact)]
  | none =>
    cases target : r.target? topic with
    | none =>
      refine (target?_eq_none_iff sound' topic).mpr fun f taken => ?_
      rw [Takes, find_eq] at taken
      exact (target?_eq_none_iff sound topic).mp target f taken
    | some id =>
      obtain ⟨f, found, taken⟩ := sound.takes_of_target? target
      cases target' : target? { r with table } topic with
      | none =>
        rw [target?_eq_none_iff sound'] at target'
        exact absurd ⟨⟨id, (find_eq f).trans found⟩, taken⟩ (target' f)
      | some id' =>
        obtain ⟨g, found', taken'⟩ := sound'.takes_of_target? target'
        rw [find_eq] at found'
        have same := alone exact f g ⟨⟨id, found⟩, taken⟩ ⟨⟨id', found'⟩, taken'⟩
        rw [← same, found] at found'
        exact found'.symm

/-- Without an exact filter only filters with wildcards are left. -/
theorem hasWildcards_of_takes {r : Registry} {f topic : String} (exact : r.find? topic = none)
    (taken : r.Takes f topic) : hasWildcards f = true := by
  cases wild : hasWildcards f with
  | true => rfl
  | false =>
    obtain ⟨⟨id, found⟩, passed⟩ := taken
    rw [(filterMatches_iff_eq wild).mp passed, exact] at found
    cases found

theorem scan_isSome_iff {r : Registry} (sound : r.Sound) (topic : String) :
    (r.table.find? fun entry => filterMatches entry.1 topic).isSome = true ↔
      ∃ f, r.Takes f topic := by
  rw [List.find?_isSome]
  constructor
  · rintro ⟨entry, h, passed⟩
    exact ⟨entry.1, ⟨entry.2, sound.find?_entry h⟩, passed⟩
  · rintro ⟨f, ⟨id, found⟩, passed⟩
    exact ⟨(f, id), mem_of_find? found, passed⟩

end Registry

theorem Rehearsal.dispatch?_silent (s : Rehearsal) (m : Message) (steps : Nat)
    (silent : (s.registry.dispatch m).2.2 = []) :
    ∃ seen, s.dispatch? (steps + 1) m =
      some ((s.registry.dispatch m).1,
        { s with registry := (s.registry.dispatch m).2.1, seen }) := by
  cases target : s.registry.target? m.topic with
  | none => exact ⟨s.seen, by simp [dispatch?, Registry.dispatch, target]⟩
  | some id =>
    rw [Registry.dispatch, target] at silent
    simp only at silent
    simp only [dispatch?, Registry.dispatch, target, settle?, step, silent]
    split
    · rename_i f handler found
      exact ⟨s.seen ++ [.received f m], by simp [see, settle?]⟩
    · exact ⟨s.seen, by simp [settle?]⟩

namespace Registry

/-- What dispatching a message comes to, whatever order the table has. -/
structure AgreesWithScan (r : Registry) (m : Message) : Prop where
  taken_iff : (r.dispatch m).1 = true ↔ ∃ f, r.Takes f m.topic
  scan : (r.target? m.topic).isSome =
    (r.table.find? fun entry => filterMatches entry.1 m.topic).isSome
  /-- One subscription takes the message, the one under the topic itself if there is one; all else
  stays as it was. -/
  taken : (r.dispatch m).1 = true → ∃ f id before after,
    r.Takes f m.topic ∧ (r.contains m.topic = true → f = m.topic) ∧ r.find? f = some id ∧
      r.made[id]? = some before ∧ before.filter = f ∧ before.Took m after (r.dispatch m).2.2 ∧
      (r.dispatch m).2.1 = { r with made := r.made.set id after }
  dropped : (r.dispatch m).1 = false → (r.dispatch m).2 = (r, [])
  /-- The order decides only between filters with wildcards, where the topic is no filter. -/
  order : ∀ table : List (String × SubscriptionId), table.Perm r.table →
    target? { r with table } m.topic ≠ r.target? m.topic →
      r.find? m.topic = none ∧ ∃ f g, f ≠ g ∧ hasWildcards f = true ∧ hasWildcards g = true ∧
        r.Takes f m.topic ∧ r.Takes g m.topic
  /-- Unless a callback asks for something, this is all that happens in a rehearsal. -/
  rehearsed : (r.dispatch m).2.2 = [] → ∀ s : Rehearsal, s.registry = r → ∀ steps, ∃ seen,
    s.dispatch? (steps + 1) m =
      some ((r.dispatch m).1, { s with registry := (r.dispatch m).2.1, seen })

theorem Sound.target?_isSome_iff {r : Registry} (sound : r.Sound) (topic : String) :
    (r.target? topic).isSome = true ↔ ∃ f, r.Takes f topic := by
  rw [Option.isSome_iff_ne_none, ne_eq, target?_eq_none_iff sound, not_forall_not]

theorem dispatch_fst (r : Registry) (m : Message) :
    (r.dispatch m).1 = (r.target? m.topic).isSome := by
  rw [dispatch]
  cases r.target? m.topic <;> rfl

theorem Sound.dispatch_taken {r : Registry} (sound : r.Sound) {m : Message} {id : SubscriptionId}
    (target : r.target? m.topic = some id) : ∃ f before after,
      r.Takes f m.topic ∧ (r.contains m.topic = true → f = m.topic) ∧ r.find? f = some id ∧
        r.made[id]? = some before ∧ before.filter = f ∧ before.Took m after (r.dispatch m).2.2 ∧
        (r.dispatch m).2.1 = { r with made := r.made.set id after } := by
  obtain ⟨f, found, passed⟩ := sound.takes_of_target? target
  obtain ⟨d, made⟩ := sound.made_of_find? found
  have result : r.dispatch m = (true, r.deliver id m) := by rw [dispatch, target]
  rw [deliver_of_made made] at result
  refine ⟨f, _, _, ⟨⟨id, found⟩, passed⟩, ?_, found, made, rfl, ?_, by rw [result]⟩
  · intro exact
    obtain ⟨other, named⟩ := Option.isSome_iff_exists.mp exact
    have same := (target?_of_exact named).symm.trans target
    exact Made.unique ⟨d, made⟩ (sound.made_of_find? (named.trans same))
  · rw [result]
    exact Subscription.took_deliver _ m

theorem Sound.agreesWithScan {r : Registry} (sound : r.Sound) (m : Message) :
    r.AgreesWithScan m where
  taken_iff := by rw [dispatch_fst, sound.target?_isSome_iff]
  scan := by rw [Bool.eq_iff_iff, sound.target?_isSome_iff, scan_isSome_iff sound]
  taken := by
    intro h
    rw [dispatch_fst] at h
    obtain ⟨id, target⟩ := Option.isSome_iff_exists.mp h
    obtain ⟨f, before, after, rest⟩ := sound.dispatch_taken target
    exact ⟨f, id, before, after, rest⟩
  dropped := by
    intro h
    rw [dispatch_fst, Option.isSome_eq_false_iff, Option.isNone_iff_eq_none] at h
    rw [dispatch, h]
  order := by
    intro table perm differs
    by_contra none
    apply differs
    apply target?_permuted sound perm
    intro exact f g hf hg
    by_contra apart
    exact none ⟨exact, f, g, apart, hasWildcards_of_takes exact hf, hasWildcards_of_takes exact hg,
      hf, hg⟩
  rehearsed := by
    rintro silent s rfl steps
    exact s.dispatch?_silent m steps silent

end Registry

namespace Traffic

variable {σ : Type}

/-- After any run of any calls, and for every order of the table. -/
theorem dispatch_agrees_with_scan {link : LinkAnswers σ} {l : σ} {moves : List (Move σ)}
    {s : Traffic σ} (run : (start l).run? link moves = some s)
    {table : List (String × SubscriptionId)} (perm : table.Perm s.registry.table) (m : Message) :
    Registry.AgreesWithScan { s.registry with table } m :=
  ((sound_of_run run).registry.permuted perm).agreesWithScan m

/-- Two wildcard filters and an exact one, entered by calls that overlap. -/
def overlapping : List (Move (List (Except Fault Unit))) :=
  [.add "a/+" .usual (.queue .empty), .add "a/#" .usual (.queue .empty), .advance 1, .advance 0,
    .advance 0, .add "a/b" .usual (.callback fun _ => []), .advance 2, .advance 1]

/-- The topic may itself be a filter with wildcards. -/
theorem dispatch_agrees_with_scan_overlapping :
    ∃ s : Traffic (List (Except Fault Unit)), (start []).run? scripted overlapping = some s ∧
      [("a/b", 2), ("a/+", 1), ("a/#", 0)].Perm s.registry.table ∧
      Registry.AgreesWithScan { s.registry with table := [("a/b", 2), ("a/+", 1), ("a/#", 0)] }
        ⟨"a/+", [0x48]⟩ := by
  obtain ⟨s, run, perm⟩ : ∃ s : Traffic (List (Except Fault Unit)),
      (start []).run? scripted overlapping = some s ∧
        [("a/b", 2), ("a/+", 1), ("a/#", 0)].Perm s.registry.table := ⟨_, rfl, by decide⟩
  exact ⟨s, run, perm, dispatch_agrees_with_scan run perm _⟩

end Traffic

end Courier
