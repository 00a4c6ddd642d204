import Courier.Proofs.Run
import Courier.Proofs.Session.Outcome

/-!
# Calls that wait for the outcome of connecting

Any number of calls wait for the outcome, each with a deadline or without, while the session and its
network thread report what happens. A sleeper whose time is up wakes in one step and has the lock
again in another. Success is told to every call; a failure is told to the first that has the lock,
and to that one only.
-/

namespace Courier

namespace ConnectOutcome

def of : Except Fault Unit → ConnectOutcome
  | .ok () => .established
  | .error fault => .failed fault

/-- What is left of an outcome that a call has been told. -/
def remainder : Except Fault Unit → ConnectOutcome
  | .ok () => .established
  | .error _ => .pending

theorem of_ne_pending (o : Except Fault Unit) : of o ≠ .pending := by
  cases o <;> exact nofun

theorem of_injective {o p : Except Fault Unit} (h : of o = of p) : o = p := by
  cases o <;> cases p <;> simp_all [of]

end ConnectOutcome

/-- The outcome that an event reports. -/
def Signal.Event.outcome? : Event → Option (Except Fault Unit)
  | .answered true => some (.ok ())
  | .fail fault => some (.error fault)
  | _ => none

structure Vigil where
  signal : Signal
  now : Instant
  /-- How many calls were ever made. -/
  calls : Nat
  /-- Calls that have not had the lock yet. -/
  coming : List OutcomeWaiter
  /-- Sleepers whose time is up and that have not had the lock again. -/
  late : List OutcomeWaiter
  /-- The outcome that was reported first. -/
  first : Option (Except Fault Unit)
  /-- What calls returned before there was an outcome, the latest last. -/
  before : List Signal.Answer
  /-- What calls have returned since. -/
  since : List Signal.Answer

namespace Vigil

def start (now : Instant) : Vigil := ⟨.fresh, now, 0, [], [], none, [], []⟩

/-- What comes of a turn at the signal. -/
def tell (s : Vigil) : Signal × List Signal.Answer → Vigil
  | (signal, answers) =>
    match s.first with
    | none => { s with signal, before := s.before ++ answers }
    | some _ => { s with signal, since := s.since ++ answers }

inductive Move where
  /-- The clock goes on. -/
  | pass (later : Instant)
  /-- The session or its thread reports something. -/
  | report (e : Signal.Event)
  /-- A call comes. -/
  | call (deadline : Option Instant) (policy : RetryPolicy)
  /-- It has the lock for the first time. -/
  | enter (id : Nat)
  | resume (id : Nat)
  | stir (id : Nat)
  /-- The time of a sleeper is up. -/
  | expire (id : Nat)
  /-- A call whose time was up has the lock again. -/
  | leave (id : Nat)

/-- The call that has the lock. -/
def Move.caller? : Move → Option Nat
  | .enter id | .resume id | .stir id | .leave id => some id
  | _ => none

def step? (s : Vigil) : Move → Option Vigil
  | .pass later => if s.now ≤ later then some { s with now := later } else none
  | .report e =>
    if e.isWait then none
    else (s.signal.step? s.now e).map fun (signal, _) =>
      { s with signal, first := s.first.or e.outcome? }
  | .call deadline policy =>
    some { s with calls := s.calls + 1, coming := s.coming ++ [⟨s.calls, deadline, policy⟩] }
  | .enter id => (s.coming.find? (·.id = id)).map fun w =>
    { s with coming := s.coming.erase w }.tell (s.signal.arrive w)
  | .resume id => (s.signal.step? s.now (.resume id)).map s.tell
  | .stir id => (s.signal.step? s.now (.stir id)).map s.tell
  | .expire id => do
    let w ← s.signal.asleep.find? (·.id = id)
    let deadline ← w.deadline
    if deadline ≤ s.now then
      some { s with signal.asleep := s.signal.asleep.erase w, late := s.late ++ [w] }
    else none
  | .leave id => (s.late.find? (·.id = id)).map fun w =>
    { s with late := s.late.erase w }.tell (s.signal.giveUp w)

def run? (moves : List Move) (s : Vigil) : Option Vigil := moves.foldlM step? s

/-- The calls that have not returned. -/
def callers (s : Vigil) : List OutcomeWaiter := s.coming ++ s.signal.sleepers ++ s.late

/-- A call leaves the place where it was, to have the lock. -/
inductive Yields (s : Vigil) (w : OutcomeWaiter) : Vigil → Prop where
  | coming (there : w ∈ s.coming) : Yields s w { s with coming := s.coming.erase w }
  | woken (there : w ∈ s.signal.woken) :
      Yields s w { s with signal.woken := s.signal.woken.erase w }
  | asleep (there : w ∈ s.signal.asleep) :
      Yields s w { s with signal.asleep := s.signal.asleep.erase w }
  | late (there : w ∈ s.late) : Yields s w { s with late := s.late.erase w }

/-- The call that has the lock in a move. -/
def holder? (s : Vigil) : Move → Option OutcomeWaiter
  | .enter id => s.coming.find? (·.id = id)
  | .resume id => s.signal.woken.find? (·.id = id)
  | .stir id => s.signal.asleep.find? (·.id = id)
  | .leave id => s.late.find? (·.id = id)
  | _ => none

/-- What that call is told. -/
def tells (s : Vigil) (w : OutcomeWaiter) : Move → List Signal.Answer
  | .leave _ => (s.signal.giveUp w).2
  | _ => (s.signal.arrive w).2

/-- A call that has the lock looks at the outcome. One whose time was up does not sleep again. -/
inductive Looks (s : Vigil) (w : OutcomeWaiter) (move : Move) : Vigil → Prop where
  | arrive {t : Vigil} (yields : s.Yields w t) (told : s.tells w move = (s.signal.arrive w).2) :
      Looks s w move (t.tell (t.signal.arrive w))
  | giveUp (late : w ∈ s.late) (told : s.tells w move = (s.signal.giveUp w).2) :
      Looks s w move ({ s with late := s.late.erase w }.tell (s.signal.giveUp w))

/-- What comes of a call that has the lock. -/
inductive Turn (s : Vigil) (w : OutcomeWaiter) : Vigil → Prop where
  | learn {t : Vigil} {o : Except Fault Unit} (yields : s.Yields w t)
      (known : s.signal.outcome = .of o) :
      Turn s w (t.tell ({ t.signal with outcome := .remainder o }, [⟨w.id, o⟩]))
  | sleep {t : Vigil} (yields : s.Yields w t) (unknown : s.signal.outcome = .pending) :
      Turn s w (t.tell ({ t.signal with asleep := t.signal.asleep ++ [w] }, []))
  | giveUp {t : Vigil} (yields : s.Yields w t) (unknown : s.signal.outcome = .pending) :
      Turn s w (t.tell (t.signal, [⟨w.id, .error w.policy.timeoutFault⟩]))

/-- Everything that a move can do. -/
inductive Advances (s : Vigil) : Move → Vigil → Prop where
  | pass {later : Instant} (onward : s.now ≤ later) :
      Advances s (.pass later) { s with now := later }
  | note {e : Signal.Event} {state : SessionState} (silent : e.outcome? = none) :
      Advances s (.report e) { s with signal.state := state, first := s.first.or e.outcome? }
  | success : Advances s (.report (.answered true))
      { s with signal := s.signal.answered true, first := s.first.or (some (.ok ())) }
  | failure (fault : Fault) : Advances s (.report (.fail fault))
      { s with signal := s.signal.fail fault, first := s.first.or (some (.error fault)) }
  | call (deadline : Option Instant) (policy : RetryPolicy) :
      Advances s (.call deadline policy)
        { s with calls := s.calls + 1, coming := s.coming ++ [⟨s.calls, deadline, policy⟩] }
  | turn {move : Move} {w : OutcomeWaiter} {s' : Vigil} (caller : move.caller? = some w.id)
      (turn : s.Turn w s') : Advances s move s'
  | expire {w : OutcomeWaiter} (there : w ∈ s.signal.asleep) :
      Advances s (.expire w.id)
        { s with signal.asleep := s.signal.asleep.erase w, late := s.late ++ [w] }

variable {s s' t : Vigil} {w : OutcomeWaiter} {o : Except Fault Unit} {move : Move}
  {moves : List Move} {now : Instant}

/-! ## What a move can do -/

theorem Yields.same (yields : s.Yields w t) : t.signal.outcome = s.signal.outcome ∧
    t.first = s.first ∧ t.before = s.before ∧ t.since = s.since := by
  cases yields <;> exact ⟨rfl, rfl, rfl, rfl⟩

theorem turn_arrive (yields : s.Yields w t) : s.Turn w (t.tell (t.signal.arrive w)) := by
  have same := yields.same.1
  unfold Signal.arrive
  split
  · rename_i known
    have turn := Turn.learn (o := .ok ()) yields (same.symm.trans known)
    rwa [ConnectOutcome.remainder, ← known] at turn
  · rename_i fault known
    exact .learn (o := .error fault) yields (same.symm.trans known)
  · rename_i unknown
    exact .sleep yields (same.symm.trans unknown)

theorem turn_giveUp (there : w ∈ s.late) :
    s.Turn w ({ s with late := s.late.erase w }.tell (s.signal.giveUp w)) := by
  unfold Signal.giveUp
  split
  · rename_i unknown
    exact .giveUp (.late there) unknown
  · exact turn_arrive (.late there)

theorem Looks.turn (looks : s.Looks w move s') : s.Turn w s' := by
  cases looks with
  | arrive yields => exact turn_arrive yields
  | giveUp late => exact turn_giveUp late

/-- A move of a call is made by one that is where the move looks for it. -/
theorem looks_of_step? {id : Nat} (caller : move.caller? = some id) (h : s.step? move = some s') :
    ∃ w, w.id = id ∧ s.holder? move = some w ∧ s.Looks w move s' := by
  have named {places : List OutcomeWaiter} {id : Nat} {w : OutcomeWaiter}
      (found : places.find? (·.id = id) = some w) : w.id = id := by
    simpa using List.find?_some found
  cases move with
  | enter id =>
    cases caller
    obtain ⟨w, found, rfl⟩ := Option.map_eq_some_iff.mp h
    exact ⟨w, named found, found, .arrive (.coming (List.mem_of_find?_eq_some found)) rfl⟩
  | resume id =>
    cases caller
    obtain ⟨told, stepped, rfl⟩ := Option.map_eq_some_iff.mp h
    obtain ⟨w, found, taken⟩ := Option.bind_eq_some_iff.mp stepped
    cases taken
    exact ⟨w, named found, found, .arrive (.woken (List.mem_of_find?_eq_some found)) rfl⟩
  | stir id =>
    cases caller
    obtain ⟨told, stepped, rfl⟩ := Option.map_eq_some_iff.mp h
    obtain ⟨w, found, taken⟩ := Option.bind_eq_some_iff.mp stepped
    cases taken
    exact ⟨w, named found, found, .arrive (.asleep (List.mem_of_find?_eq_some found)) rfl⟩
  | leave id =>
    cases caller
    obtain ⟨w, found, rfl⟩ := Option.map_eq_some_iff.mp h
    exact ⟨w, named found, found, .giveUp (List.mem_of_find?_eq_some found) rfl⟩
  | _ => cases caller

theorem advances_of_step? (h : s.step? move = some s') : s.Advances move s' := by
  have turns {id : Nat} (caller : move.caller? = some id) : s.Advances move s' := by
    obtain ⟨w, rfl, -, looks⟩ := looks_of_step? caller h
    exact .turn caller looks.turn
  cases move with
  | pass later =>
    simp only [step?] at h
    split at h
    · rename_i onward
      cases h
      exact .pass onward
    · cases h
  | report e =>
    simp only [step?] at h
    split at h
    · cases h
    obtain ⟨⟨signal, answers⟩, stepped, rfl⟩ := Option.map_eq_some_iff.mp h
    cases e with
    | answered success =>
      cases success with
      | true =>
        cases stepped
        exact .success
      | false =>
        cases stepped
        exact .note rfl
    | fail fault =>
      cases stepped
      exact .failure fault
    | connecting | disconnected | lost =>
      cases stepped
      exact .note rfl
    | _ => simp_all [Signal.Event.isWait]
  | call deadline policy =>
    cases h
    exact .call deadline policy
  | expire id =>
    obtain ⟨w, found, timed⟩ := Option.bind_eq_some_iff.mp h
    obtain ⟨deadline, limit, woke⟩ := Option.bind_eq_some_iff.mp timed
    obtain rfl : w.id = id := by simpa using List.find?_some found
    split at woke
    · cases woke
      exact .expire (List.mem_of_find?_eq_some found)
    · cases woke
  | enter | resume | stir | leave => exact turns rfl

/-! ## What holds at every moment -/

/-- The outcome that was reported is there for every call, and nobody is asleep who waits for it. -/
structure Open (s : Vigil) (o : Except Fault Unit) : Prop where
  outcome : s.signal.outcome = .of o
  awake : s.signal.asleep = []
  told : ∀ a ∈ s.since, a.result = o

/-- Until there is an outcome there is nothing to tell. Then there is, as long as it is a success or
nobody has been told. -/
structure Sound (s : Vigil) : Prop where
  waiting : s.first = none → s.signal.outcome = .pending ∧ s.since = []
  settled : ∀ o, s.first = some o → o = .ok () ∨ s.since = [] → s.Open o

theorem sound_start (now : Instant) : (start now).Sound where
  waiting _ := ⟨rfl, rfl⟩
  settled o first := by cases first

theorem Yields.asleep_eq_nil (yields : s.Yields w t) (awake : s.signal.asleep = []) :
    t.signal.asleep = [] := by
  cases yields with
  | asleep => simp [awake]
  | _ => exact awake

theorem tell_same (s : Vigil) (turn : Signal × List Signal.Answer) :
    (s.tell turn).first = s.first ∧ (s.tell turn).signal = turn.1 := by
  unfold tell
  cases s.first <;> exact ⟨rfl, rfl⟩

theorem tell_since_of_none (unsettled : s.first = none) (turn : Signal × List Signal.Answer) :
    (s.tell turn).since = s.since := by
  simp [tell, unsettled]

theorem tell_since (settled : s.first = some o) (turn : Signal × List Signal.Answer) :
    (s.tell turn).since = s.since ++ turn.2 := by
  simp [tell, settled]

theorem untold_of_tell {turn : Signal × List Signal.Answer} (untold : (s.tell turn).since = []) :
    s.since = [] := by
  cases first : s.first with
  | none => exact (tell_since_of_none first turn).symm.trans untold
  | some o => exact (List.append_eq_nil_iff.mp ((tell_since first turn).symm.trans untold)).1

theorem Turn.untold (turn : s.Turn w s') (untold : s'.since = []) : s.since = [] := by
  cases turn with
  | learn yields | sleep yields | giveUp yields =>
    exact yields.same.2.2.2.symm.trans (untold_of_tell untold)

theorem Turn.first (turn : s.Turn w s') : s'.first = s.first := by
  cases turn with
  | learn yields | sleep yields | giveUp yields =>
    exact (tell_same ..).1.trans yields.same.2.1

theorem Open.turn (standing : s.Open o) (first : s.first = some o) (turn : s.Turn w s') :
    s'.since = s.since ++ [⟨w.id, o⟩] ∧ (o = .ok () → s'.Open o) := by
  cases turn with
  | @learn t p yields known =>
    obtain rfl := ConnectOutcome.of_injective (known.symm.trans standing.outcome)
    obtain ⟨-, same, -, since⟩ := yields.same
    have told := tell_since (s := t) (same.trans first)
      ({ t.signal with outcome := .remainder p }, [⟨w.id, p⟩])
    rw [since] at told
    refine ⟨told, fun success => ⟨?_, ?_, ?_⟩⟩
    · rw [(tell_same ..).2, success]
      rfl
    · rw [(tell_same ..).2]
      exact yields.asleep_eq_nil standing.awake
    · intro a there
      rw [told, List.mem_append, List.mem_singleton] at there
      rcases there with earlier | rfl
      · exact standing.told a earlier
      · rfl
  | sleep _ unknown | giveUp _ unknown =>
    exact absurd (standing.outcome.symm.trans unknown) (ConnectOutcome.of_ne_pending o)

theorem Sound.turn (sound : s.Sound) (turn : s.Turn w s') : s'.Sound := by
  refine ⟨fun unsettled => ?_, fun o first untold => ?_⟩
  · rw [turn.first] at unsettled
    obtain ⟨pending, untold⟩ := sound.waiting unsettled
    cases turn with
    | learn yields known =>
      exact absurd (known.symm.trans pending) (ConnectOutcome.of_ne_pending _)
    | sleep yields | giveUp yields =>
      obtain ⟨outcome, first, -, since⟩ := yields.same
      rw [(tell_same ..).2, tell_since_of_none (first.trans unsettled), since]
      exact ⟨outcome.trans pending, untold⟩
  · rw [turn.first] at first
    have standing := sound.settled o first (untold.imp_right turn.untold)
    obtain ⟨told, stands⟩ := standing.turn first turn
    refine stands (untold.resolve_right fun none => ?_)
    simp [none] at told

/-- A report leaves the outcome that was reported before, or is the first. -/
theorem Sound.report (sound : s.Sound) {signal : Signal} {o : Except Fault Unit}
    (outcome : signal.outcome = if s.signal.outcome = .pending then .of o else s.signal.outcome)
    (awake : s.signal.outcome = .pending → signal.asleep = [])
    (asleep : s.signal.asleep = [] → signal.asleep = []) :
    ({ s with signal, first := s.first.or (some o) } : Vigil).Sound := by
  refine ⟨fun unsettled => ?_, fun p first untold => ?_⟩
  · cases known : s.first <;> simp [known] at unsettled
  · cases known : s.first with
    | none =>
      obtain ⟨pending, since⟩ := sound.waiting known
      simp only [known, Option.none_or, Option.some.injEq] at first
      subst first
      exact ⟨by rw [outcome, if_pos pending], awake pending, by simp [since]⟩
    | some q =>
      simp only [known, Option.some_or, Option.some.injEq] at first
      subst first
      have standing := sound.settled q known untold
      have settled : s.signal.outcome ≠ .pending :=
        standing.outcome ▸ ConnectOutcome.of_ne_pending q
      exact ⟨by rw [outcome, if_neg settled, standing.outcome], asleep standing.awake,
        standing.told⟩

theorem Sound.step (sound : s.Sound) (h : s.Advances move s') : s'.Sound := by
  cases h with
  | pass | call =>
    exact ⟨sound.waiting, fun o first untold =>
      have standing := sound.settled o first untold
      ⟨standing.outcome, standing.awake, standing.told⟩⟩
  | note silent =>
    rw [silent, Option.or_none]
    exact ⟨sound.waiting, fun o first untold =>
      have standing := sound.settled o first untold
      ⟨standing.outcome, standing.awake, standing.told⟩⟩
  | success =>
    exact sound.report (o := .ok ()) (Signal.answered_outcome s.signal) (fun _ => rfl) fun _ => rfl
  | failure fault =>
    refine sound.report (o := .error fault) (Signal.fail_outcome s.signal fault) (fun pending => ?_)
      fun awake => ?_
    · simp [Signal.fail, pending, Signal.wakeAll]
    · unfold Signal.fail
      cases s.signal.outcome with
      | pending => rfl
      | _ => exact awake
  | turn caller turn => exact sound.turn turn
  | expire there =>
    refine ⟨sound.waiting, fun o first untold => ?_⟩
    have standing := sound.settled o first untold
    exact ⟨standing.outcome, by simp [standing.awake], standing.told⟩

theorem sound_of_run (run : (start now).run? moves = some s) : s.Sound :=
  foldlM_keeps (fun sound h => sound.step (advances_of_step? h)) (sound_start now) run

/-- A call that does not sleep waits for nothing but the lock. -/
theorem goesOn (there : w ∈ s.callers) (awake : s.signal.asleep = []) :
    ∃ move s', move.caller? = some w.id ∧ s.step? move = some s' := by
  have found {places : List OutcomeWaiter} (there : w ∈ places) :
      ∃ other, places.find? (·.id = w.id) = some other :=
    Option.isSome_iff_exists.mp (List.find?_isSome.mpr ⟨w, there, decide_eq_true rfl⟩)
  simp only [callers, Signal.sleepers, awake, List.nil_append, List.mem_append] at there
  rcases there with (coming | woken) | late
  · obtain ⟨other, here⟩ := found coming
    exact ⟨.enter w.id, _, rfl, by rw [step?, here]; rfl⟩
  · obtain ⟨other, here⟩ := found woken
    exact ⟨.resume w.id, _, rfl, by rw [step?, Signal.step?, here]; rfl⟩
  · obtain ⟨other, here⟩ := found late
    exact ⟨.leave w.id, _, rfl, by rw [step?, here]; rfl⟩

theorem Advances.tells {id : Nat} (h : s.Advances move s') (caller : move.caller? = some id)
    (first : s.first = some o) (standing : s.Open o) : s'.since = s.since ++ [⟨id, o⟩] := by
  cases h with
  | turn same turn =>
    cases same.symm.trans caller
    exact (standing.turn first turn).1
  | _ => cases caller

/-- What every call may rely on that waits for the outcome. -/
structure Hears (s : Vigil) (o : Except Fault Unit) : Prop where
  /-- Every call that has returned since returned this outcome. -/
  heard : ∀ a ∈ s.since, a.result = o
  /-- No call sleeps, so none runs out of time; each can go on as soon as it has the lock. -/
  awake : s.signal.asleep = [] ∧
    ∀ w ∈ s.callers, ∃ move s', move.caller? = some w.id ∧ s.step? move = some s'
  /-- Whichever has the lock returns this outcome. -/
  hears : ∀ move id s', move.caller? = some id → s.step? move = some s' →
    s'.since = s.since ++ [⟨id, o⟩]

/-- The outcome that was reported first is what every call hears, if it is a success or no call has
been told of the failure yet. -/
theorem hears_unless_taken (run : (start now).run? moves = some s) (first : s.first = some o)
    (untaken : o = .ok () ∨ s.since = []) : s.Hears o := by
  have standing := (sound_of_run run).settled o first untaken
  exact
    { heard := standing.told
      awake := ⟨standing.awake, fun w there => goesOn there standing.awake⟩
      hears := fun move id s' caller step =>
        (advances_of_step? step).tells caller first standing }

/-- One call sleeps without a deadline, the time of another is up, and a third has only just come
when the session is established; a failure comes too late. -/
def inTime : List Move :=
  [.report .connecting, .call none .usual, .enter 0, .call (some .origin) .usual, .enter 1,
    .expire 1, .call none .usual, .report (.answered true), .report .lost,
    .report (.fail (.connectFailed "late")), .leave 1, .resume 0]

theorem hears_unless_taken_inTime :
    ∃ s, (start .origin).run? inTime = some s ∧ s.first = some (.ok ()) ∧
      s.since = [⟨1, .ok ()⟩, ⟨0, .ok ()⟩] ∧ s.callers = [⟨2, none, .usual⟩] ∧ s.Hears (.ok ()) :=
  ⟨_, rfl, rfl, rfl, rfl, @hears_unless_taken _ _ inTime .origin rfl rfl (.inl rfl)⟩

/-- A failure is told to one call. The next runs out of time, and another sleeps until it hears of a
later failure. -/
def tooLate : List Move :=
  [.report (.fail (.connectFailed "refused")), .call none .usual, .enter 0,
    .call (some .origin) .usual, .enter 1, .expire 1, .leave 1, .call none .usual, .enter 2,
    .report (.fail (.connectFailed "later")), .resume 2]

theorem not_all_hear :
    ¬ ∀ (now : Instant) (moves : List Move) (s : Vigil) (o : Except Fault Unit),
      (start now).run? moves = some s → s.first = some o → ∀ a ∈ s.since, a.result = o := by
  intro all
  obtain ⟨s, run, first, since⟩ :
      ∃ s, (start .origin).run? tooLate = some s ∧
        s.first = some (.error (.connectFailed "refused")) ∧
        s.since = [⟨0, .error (.connectFailed "refused")⟩,
          ⟨1, .error RetryPolicy.usual.timeoutFault⟩, ⟨2, .error (.connectFailed "later")⟩] :=
    ⟨_, rfl, rfl, rfl⟩
  have heard := all .origin tooLate s _ run first ⟨1, .error RetryPolicy.usual.timeoutFault⟩
    (by rw [since]; exact List.mem_cons_of_mem _ List.mem_cons_self)
  cases heard

end Vigil

end Courier
