import Courier.Proofs.Session.Vigil

/-!
# The outcome of connecting, from hand to hand

What becomes of every failure that the session or its thread reports, and what every call that
waits for the outcome returns. A failure is recorded only while there is no outcome; it is handed
to one call, or it is still held. A call that finds no outcome returns only past its deadline. Once
a success is recorded it stays, and every call returns it.
-/

namespace Courier

/-- What a call returned, when, and the outcome that it found at that moment. -/
structure Returned where
  call : OutcomeWaiter
  time : Instant
  found : ConnectOutcome
  result : Except Fault Unit

namespace Returned

def answer (r : Returned) : Signal.Answer := ⟨r.call.id, r.result⟩

/-- The failure that the call was handed. -/
def handed? (r : Returned) : Option Fault :=
  match r.found with
  | .failed fault => some fault
  | _ => none

/-- Whether a call returned what it found, or found nothing past its deadline. -/
def IsJust (r : Returned) : Prop :=
  match r.found with
  | .established => r.result = .ok ()
  | .failed fault => r.result = .error fault
  | .pending => r.result = .error r.call.policy.timeoutFault ∧
    ∃ deadline, r.call.deadline = some deadline ∧ deadline ≤ r.time

end Returned

/-- The failure that waits for a call. -/
def ConnectOutcome.held : ConnectOutcome → List Fault
  | .failed fault => [fault]
  | _ => []

namespace Signal

theorem wakeAll_sleepers (s : Signal) : s.wakeAll.sleepers.Perm s.sleepers :=
  @List.perm_append_comm _ s.woken s.asleep

theorem answered_sleepers (s : Signal) : (s.answered true).sleepers.Perm s.sleepers :=
  wakeAll_sleepers s

theorem fail_sleepers (s : Signal) (fault : Fault) : (s.fail fault).sleepers.Perm s.sleepers := by
  unfold fail
  cases s.outcome with
  | pending => exact wakeAll_sleepers s
  | _ => exact .refl _

theorem fail_of_settled {s : Signal} (settled : s.outcome ≠ .pending) (fault : Fault) :
    s.fail fault = { s with state := .disconnected } := by
  unfold fail
  cases known : s.outcome with
  | pending => exact absurd known settled
  | _ => rfl

end Signal

namespace Vigil

/-- The call that a move makes. -/
@[simp]
def makes (s : Vigil) : Move → List OutcomeWaiter
  | .call deadline policy => [⟨s.calls, deadline, policy⟩]
  | _ => []

/-- The failure that a move makes the outcome. -/
@[simp]
def records (s : Vigil) : Move → List Fault
  | .report (.fail fault) => if s.signal.outcome = .pending then [fault] else []
  | _ => []

/-- What calls return in a move. -/
def returns (s : Vigil) (move : Move) : List Returned :=
  match s.holder? move with
  | some w => (s.tells w move).map fun a => ⟨w, s.now, s.signal.outcome, a.result⟩
  | none => []

variable {s t : Vigil} {w : OutcomeWaiter}

/-! ## Where calls are -/

theorem Yields.perm (yields : s.Yields w t) : s.callers.Perm (w :: t.callers) := by
  have taken {l : List OutcomeWaiter} (there : w ∈ l) (front back : List OutcomeWaiter) :
      (front ++ l ++ back).Perm (w :: (front ++ l.erase w ++ back)) :=
    (((List.perm_cons_erase there).append_left front).trans List.perm_middle).append_right back
  unfold callers Signal.sleepers
  cases yields with
  | coming there => simpa using taken there [] (s.signal.asleep ++ s.signal.woken ++ s.late)
  | woken there => simpa using taken there (s.coming ++ s.signal.asleep) s.late
  | asleep there => simpa using taken there s.coming (s.signal.woken ++ s.late)
  | late there => simpa using taken there (s.coming ++ s.signal.asleep ++ s.signal.woken) []

theorem callers_perm {signal : Signal} (s : Vigil) {first : Option (Except Fault Unit)}
    (perm : signal.sleepers.Perm s.signal.sleepers) :
    ({ s with signal, first } : Vigil).callers.Perm s.callers :=
  (perm.append_left s.coming).append_right s.late

theorem Yields.later (yields : s.Yields w t) : t.now = s.now ∧ t.calls = s.calls ∧
    ∀ other ∈ t.late, other ∈ s.late := by
  cases yields with
  | late => exact ⟨rfl, rfl, fun other there => List.mem_of_mem_erase there⟩
  | _ => exact ⟨rfl, rfl, fun other there => there⟩

theorem tell_places (s : Vigil) (turn : Signal × List Signal.Answer) :
    (s.tell turn).now = s.now ∧ (s.tell turn).calls = s.calls ∧
      (s.tell turn).coming = s.coming ∧ (s.tell turn).late = s.late := by
  unfold tell
  cases s.first <;> exact ⟨rfl, rfl, rfl, rfl⟩

/-- Everything that calls have returned. -/
def answers (s : Vigil) : List Signal.Answer := s.before ++ s.since

theorem tell_answers (unsettled : s.first = none → s.since = [])
    (turn : Signal × List Signal.Answer) : (s.tell turn).answers = s.answers ++ turn.2 := by
  unfold answers tell
  cases first : s.first with
  | none => simp [unsettled first]
  | some o => simp

end Vigil

structure Handover where
  vigil : Vigil
  /-- The calls that were ever made. -/
  made : List OutcomeWaiter
  /-- The failures that ever became the outcome, the latest last. -/
  recorded : List Fault
  /-- What calls returned, the latest last. -/
  returned : List Returned

namespace Handover

open Vigil (Move)

def start (now : Instant) : Handover := ⟨.start now, [], [], []⟩

def step? (s : Handover) (move : Move) : Option Handover :=
  (s.vigil.step? move).map fun vigil =>
    { vigil
      made := s.made ++ s.vigil.makes move
      recorded := s.recorded ++ s.vigil.records move
      returned := s.returned ++ s.vigil.returns move }

def run? (moves : List Move) (s : Handover) : Option Handover := moves.foldlM step? s

/-- What comes of a call that has the lock. -/
inductive Turn (s : Handover) (w : OutcomeWaiter) : Handover → Prop where
  | learn {v : Vigil} {o : Except Fault Unit} (yields : s.vigil.Yields w v)
      (known : s.vigil.signal.outcome = .of o) :
      Turn s w { s with
        vigil := v.tell ({ v.signal with outcome := .remainder o }, [⟨w.id, o⟩])
        returned := s.returned ++ [⟨w, s.vigil.now, .of o, o⟩] }
  | sleep {v : Vigil} (yields : s.vigil.Yields w v)
      (unknown : s.vigil.signal.outcome = .pending) :
      Turn s w { s with
        vigil := v.tell ({ v.signal with asleep := v.signal.asleep ++ [w] }, []) }
  | giveUp {v : Vigil} (yields : s.vigil.Yields w v) (late : w ∈ s.vigil.late)
      (unknown : s.vigil.signal.outcome = .pending) :
      Turn s w { s with
        vigil := v.tell (v.signal, [⟨w.id, .error w.policy.timeoutFault⟩])
        returned := s.returned ++
          [⟨w, s.vigil.now, .pending, .error w.policy.timeoutFault⟩] }

/-- Everything that a move can do. -/
inductive Advances (s : Handover) : Move → Handover → Prop where
  | pass {later : Instant} (onward : s.vigil.now ≤ later) :
      Advances s (.pass later) { s with vigil.now := later }
  | note {e : Signal.Event} {state : SessionState} (silent : e.outcome? = none) :
      Advances s (.report e)
        { s with vigil.signal.state := state, vigil.first := s.vigil.first.or e.outcome? }
  | success : Advances s (.report (.answered true)) { s with
      vigil.signal := s.vigil.signal.answered true
      vigil.first := s.vigil.first.or (some (.ok ())) }
  | record {fault : Fault} (unknown : s.vigil.signal.outcome = .pending) :
      Advances s (.report (.fail fault)) { s with
        vigil.signal := s.vigil.signal.fail fault
        vigil.first := s.vigil.first.or (some (.error fault))
        recorded := s.recorded ++ [fault] }
  | discard {fault : Fault} (known : s.vigil.signal.outcome ≠ .pending) :
      Advances s (.report (.fail fault)) { s with
        vigil.signal.state := .disconnected
        vigil.first := s.vigil.first.or (some (.error fault)) }
  | call (deadline : Option Instant) (policy : RetryPolicy) :
      Advances s (.call deadline policy) { s with
        vigil.calls := s.vigil.calls + 1
        vigil.coming := s.vigil.coming ++ [⟨s.vigil.calls, deadline, policy⟩]
        made := s.made ++ [⟨s.vigil.calls, deadline, policy⟩] }
  | turn {move : Move} {w : OutcomeWaiter} {s' : Handover} (caller : move.caller? = some w.id)
      (turn : s.Turn w s') : Advances s move s'
  | expire {w : OutcomeWaiter} {deadline : Instant} (there : w ∈ s.vigil.signal.asleep)
      (limit : w.deadline = some deadline) (past : deadline ≤ s.vigil.now) :
      Advances s (.expire w.id) { s with
        vigil.signal.asleep := s.vigil.signal.asleep.erase w, vigil.late := s.vigil.late ++ [w] }

variable {s s' : Handover} {v : Vigil} {w : OutcomeWaiter} {move : Move} {moves : List Move}
  {now : Instant}

/-! ## What a move can do -/

theorem turn_arrive (yields : s.vigil.Yields w v) :
    s.Turn w { s with
      vigil := v.tell (v.signal.arrive w)
      returned := s.returned ++ (s.vigil.signal.arrive w).2.map fun a =>
        ⟨w, s.vigil.now, s.vigil.signal.outcome, a.result⟩ } := by
  have same := yields.same.1
  cases known : s.vigil.signal.outcome with
  | pending =>
    have turn := Turn.sleep yields known
    simpa [Signal.arrive, same, known] using turn
  | established =>
    have turn := Turn.learn (o := .ok ()) yields known
    have stays : { v.signal with outcome := .established } = v.signal := by rw [← known, ← same]
    rw [ConnectOutcome.remainder, stays] at turn
    simpa [Signal.arrive, same, known, ConnectOutcome.of] using turn
  | failed fault =>
    have turn := Turn.learn (o := .error fault) yields known
    simpa [Signal.arrive, same, known, ConnectOutcome.of, ConnectOutcome.remainder] using turn

theorem turn_giveUp (there : w ∈ s.vigil.late) :
    s.Turn w { s with
      vigil := { s.vigil with late := s.vigil.late.erase w }.tell (s.vigil.signal.giveUp w)
      returned := s.returned ++ (s.vigil.signal.giveUp w).2.map fun a =>
        ⟨w, s.vigil.now, s.vigil.signal.outcome, a.result⟩ } := by
  cases known : s.vigil.signal.outcome with
  | pending =>
    have turn := Turn.giveUp (.late there) there known
    simpa [Signal.giveUp, known] using turn
  | _ =>
    have turn := turn_arrive (.late there)
    simpa [Signal.giveUp, known] using turn

theorem turn_of_looks (looks : s.vigil.Looks w move v) :
    s.Turn w { s with
      vigil := v
      returned := s.returned ++ (s.vigil.tells w move).map fun a =>
        ⟨w, s.vigil.now, s.vigil.signal.outcome, a.result⟩ } := by
  cases looks with
  | arrive yields told =>
    rw [told]
    exact turn_arrive yields
  | giveUp late told =>
    rw [told]
    exact turn_giveUp late

theorem advances_of_report {e : Signal.Event} (stepped : s.vigil.step? (.report e) = some v) :
    s.Advances (.report e)
      ⟨v, s.made ++ [], s.recorded ++ s.vigil.records (.report e), s.returned ++ []⟩ := by
  simp only [Vigil.step?] at stepped
  split at stepped
  · cases stepped
  obtain ⟨⟨signal, answers⟩, reported, rfl⟩ := Option.map_eq_some_iff.mp stepped
  cases e with
  | answered success =>
    cases success with
    | true =>
      cases reported
      simpa using .success
    | false =>
      cases reported
      simpa using .note rfl
  | fail fault =>
    cases reported
    by_cases unknown : s.vigil.signal.outcome = .pending
    · simpa [unknown] using .record unknown
    · simpa [unknown, Signal.fail_of_settled] using .discard unknown
  | connecting | disconnected | lost =>
    cases reported
    simpa using .note rfl
  | _ => simp_all [Signal.Event.isWait]

theorem advances_of_step? (h : s.step? move = some s') : s.Advances move s' := by
  obtain ⟨v, stepped, rfl⟩ := Option.map_eq_some_iff.mp h
  have turns {id : Nat} (caller : move.caller? = some id) : s.Advances move
      ⟨v, s.made ++ [], s.recorded ++ [], s.returned ++ s.vigil.returns move⟩ := by
    obtain ⟨w, rfl, found, looks⟩ := Vigil.looks_of_step? caller stepped
    refine .turn caller ?_
    simpa [Vigil.returns, found] using turn_of_looks looks
  cases move with
  | pass later =>
    simp only [Vigil.step?] at stepped
    split at stepped
    · rename_i onward
      cases stepped
      simpa [Vigil.returns, Vigil.holder?] using .pass onward
    · cases stepped
  | report e => exact advances_of_report stepped
  | call deadline policy =>
    cases stepped
    simpa [Vigil.returns, Vigil.holder?] using .call deadline policy
  | expire id =>
    obtain ⟨w, found, timed⟩ := Option.bind_eq_some_iff.mp stepped
    obtain ⟨deadline, limit, woke⟩ := Option.bind_eq_some_iff.mp timed
    obtain rfl : w.id = id := by simpa using List.find?_some found
    split at woke
    · rename_i past
      cases woke
      simpa [Vigil.returns, Vigil.holder?] using
        .expire (List.mem_of_find?_eq_some found) limit past
    · cases woke
  | enter | resume | stir | leave => exact turns rfl

/-! ## What holds at every moment -/

structure Sound (s : Handover) : Prop where
  awake : s.vigil.signal.outcome ≠ .pending → s.vigil.signal.asleep = []
  unsettled : s.vigil.first = none → s.vigil.since = []
  late : ∀ w ∈ s.vigil.late, ∃ deadline, w.deadline = some deadline ∧ deadline ≤ s.vigil.now
  once : (s.vigil.callers ++ s.returned.map (·.call)).Perm s.made
  numbered : s.made.map (·.id) = List.range s.vigil.calls
  noted : s.vigil.answers = s.returned.map (·.answer)
  handed : s.recorded = s.returned.filterMap (·.handed?) ++ s.vigil.signal.outcome.held
  just : ∀ r ∈ s.returned, r.IsJust

theorem sound_start (now : Instant) : (start now).Sound := by
  constructor <;> simp [start, Vigil.start, Signal.fresh, Vigil.callers, Signal.sleepers,
    Vigil.answers, ConnectOutcome.held]

/-- A turn keeps what holds if it has an outcome only for nobody who sleeps, loses no call, notes
what it tells, and hands on what it takes. -/
theorem Sound.told (sound : s.Sound) (yields : s.vigil.Yields w v) {signal : Signal}
    {answers : List Signal.Answer} {returned : List Returned}
    (awake : signal.outcome ≠ .pending → signal.asleep = [])
    (once : (v.coming ++ signal.sleepers ++ v.late ++ returned.map (·.call)).Perm (w :: v.callers))
    (noted : answers = returned.map (·.answer))
    (handed : s.vigil.signal.outcome.held =
      returned.filterMap (·.handed?) ++ signal.outcome.held)
    (just : ∀ r ∈ returned, r.IsJust) :
    Sound { s with vigil := v.tell (signal, answers), returned := s.returned ++ returned } := by
  obtain ⟨-, first, before, since⟩ := yields.same
  obtain ⟨now, calls, later⟩ := yields.later
  obtain ⟨now', calls', coming', late'⟩ := v.tell_places (signal, answers)
  obtain ⟨first', signal'⟩ := v.tell_same (signal, answers)
  have unsettled : v.first = none → v.since = [] := by
    rw [first, since]
    exact sound.unsettled
  constructor
  · rw [signal']
    exact awake
  · intro none
    rw [first'] at none
    rw [Vigil.tell_since_of_none none, unsettled none]
  · rw [late', now', now]
    exact fun other there => sound.late other (later other there)
  · have callers : (v.tell (signal, answers)).callers = v.coming ++ signal.sleepers ++ v.late := by
      rw [Vigil.callers, signal', coming', late']
    rw [callers, List.map_append]
    -- The call that had the lock is asleep again or among those that have returned.
    calc
      (v.coming ++ signal.sleepers ++ v.late ++
          (s.returned.map (·.call) ++ returned.map (·.call))).Perm
          (v.coming ++ signal.sleepers ++ v.late ++
            (returned.map (·.call) ++ s.returned.map (·.call))) :=
        List.perm_append_comm.append_left _
      _ = v.coming ++ signal.sleepers ++ v.late ++ returned.map (·.call) ++
          s.returned.map (·.call) := (List.append_assoc ..).symm
      List.Perm _ (w :: v.callers ++ s.returned.map (·.call)) := once.append_right _
      List.Perm _ (s.vigil.callers ++ s.returned.map (·.call)) := yields.perm.symm.append_right _
      List.Perm _ s.made := sound.once
  · rw [calls', calls]
    exact sound.numbered
  · have old : v.answers = s.vigil.answers := by rw [Vigil.answers, before, since]; rfl
    rw [Vigil.tell_answers unsettled, old, sound.noted, noted, List.map_append]
  · rw [signal', List.filterMap_append, List.append_assoc, ← handed]
    exact sound.handed
  · intro r there
    exact (List.mem_append.mp there).elim (sound.just r) (just r)

theorem Sound.turn (sound : s.Sound) (turn : s.Turn w s') : s'.Sound := by
  cases turn with
  | @learn v o yields known =>
    have same := yields.same.1
    refine sound.told yields ?_ (List.perm_append_singleton w _) rfl ?_ ?_
    · intro settled
      cases o with
      | ok => exact yields.asleep_eq_nil (sound.awake (by simp [known, ConnectOutcome.of]))
      | error fault => exact absurd rfl settled
    · cases o <;> simp [known, ConnectOutcome.of, ConnectOutcome.held, ConnectOutcome.remainder,
        Returned.handed?]
    · cases o <;> simp [Returned.IsJust, ConnectOutcome.of]
  | @sleep v yields unknown =>
    have same := yields.same.1
    have sleeps : Sound { s with
        vigil := v.tell ({ v.signal with asleep := v.signal.asleep ++ [w] }, [])
        returned := s.returned ++ [] } := by
      refine sound.told yields ?_ ?_ rfl ?_ (List.forall_mem_nil _)
      · intro settled
        exact absurd (same.trans unknown) settled
      · have last := @List.perm_middle _ w (v.coming ++ v.signal.asleep) (v.signal.woken ++ v.late)
        simpa [Vigil.callers, Signal.sleepers] using last
      · simp [same, unknown, ConnectOutcome.held]
    rwa [List.append_nil] at sleeps
  | @giveUp v yields late unknown =>
    have same := yields.same.1
    refine sound.told yields (fun settled => absurd (same.trans unknown) settled)
      (List.perm_append_singleton w _) rfl ?_ ?_
    · simp [same, unknown, ConnectOutcome.held, Returned.handed?]
    · simp only [List.forall_mem_singleton]
      exact ⟨rfl, sound.late w late⟩

theorem Sound.step (sound : s.Sound) (h : s.Advances move s') : s'.Sound := by
  cases h with
  | pass onward =>
    refine ⟨sound.awake, sound.unsettled, fun w there => ?_, sound.once, sound.numbered,
      sound.noted, sound.handed, sound.just⟩
    obtain ⟨deadline, limit, past⟩ := sound.late w there
    exact ⟨deadline, limit, Nat.le_trans past onward⟩
  | note silent =>
    exact ⟨sound.awake, fun first => sound.unsettled (Option.or_eq_none_iff.mp first).1,
      sound.late, sound.once, sound.numbered, sound.noted, sound.handed, sound.just⟩
  | success =>
    refine ⟨fun _ => rfl, fun first => ?_, sound.late, ?_, sound.numbered, sound.noted, ?_,
      sound.just⟩
    · cases (Option.or_eq_none_iff.mp first).2
    · exact ((Vigil.callers_perm _ (Signal.answered_sleepers _)).append_right _).trans sound.once
    · have same : (s.vigil.signal.answered true).outcome.held = s.vigil.signal.outcome.held := by
        rw [Signal.answered_outcome]
        split
        · rename_i unknown
          rw [unknown]
          rfl
        · rfl
      exact sound.handed.trans (congrArg _ same.symm)
  | @record fault unknown =>
    refine ⟨fun _ => ?_, fun first => ?_, sound.late, ?_, sound.numbered, sound.noted, ?_,
      sound.just⟩
    · simp [Signal.fail, unknown, Signal.wakeAll]
    · cases (Option.or_eq_none_iff.mp first).2
    · exact ((Vigil.callers_perm _ (Signal.fail_sleepers _ fault)).append_right _).trans sound.once
    · have handed := sound.handed
      simp only [unknown, ConnectOutcome.held, List.append_nil] at handed
      simp [handed, Signal.fail_outcome, unknown, ConnectOutcome.held]
  | discard known =>
    refine ⟨sound.awake, fun first => ?_, sound.late, sound.once, sound.numbered,
      sound.noted, sound.handed, sound.just⟩
    cases (Option.or_eq_none_iff.mp first).2
  | call deadline policy =>
    refine ⟨sound.awake, sound.unsettled, sound.late, ?_, ?_,
      sound.noted, sound.handed, sound.just⟩
    · have old := sound.once.cons ⟨s.vigil.calls, deadline, policy⟩
      refine List.Perm.trans ?_ (old.trans (List.perm_append_singleton _ _).symm)
      simp [Vigil.callers]
    · rw [List.map_append, sound.numbered, List.range_succ]
      rfl
  | turn caller turn => exact sound.turn turn
  | @expire w deadline there limit past =>
    refine ⟨fun known => ?_, sound.unsettled, ?_, ?_, sound.numbered,
      sound.noted, sound.handed, sound.just⟩
    · simp [sound.awake known]
    · simp only [List.forall_mem_append, List.forall_mem_singleton]
      exact ⟨sound.late, deadline, limit, past⟩
    · have yields : s.vigil.Yields w _ := .asleep there
      have last := (List.perm_append_singleton w _).trans yields.perm.symm
      refine List.Perm.trans (List.Perm.append_right _ ?_) sound.once
      simpa [Vigil.callers] using last

theorem sound_of_run (run : (start now).run? moves = some s) : s.Sound :=
  foldlM_keeps (fun sound h => sound.step (advances_of_step? h)) (sound_start now) run

/-! ## Success stays -/

/-- What calls return that find a success. -/
structure Succeeds (s s' : Handover) (more : List Returned) : Prop where
  established : s'.vigil.signal.outcome = .established
  returned : s'.returned = s.returned ++ more
  success : ∀ r ∈ more, r.result = .ok ()

theorem Turn.succeeds (turn : s.Turn w s') (established : s.vigil.signal.outcome = .established) :
    s.Succeeds s' [⟨w, s.vigil.now, .established, .ok ()⟩] := by
  cases turn with
  | @learn v o yields known =>
    obtain rfl : o = .ok () := ConnectOutcome.of_injective (known.symm.trans established)
    exact ⟨by rw [(v.tell_same _).2]; rfl, rfl, by simp⟩
  | sleep yields unknown => cases unknown.symm.trans established
  | giveUp yields late unknown => cases unknown.symm.trans established

theorem Advances.succeeds (h : s.Advances move s')
    (established : s.vigil.signal.outcome = .established) : ∃ more, s.Succeeds s' more := by
  cases h with
  | turn caller turn => exact ⟨_, turn.succeeds established⟩
  | success =>
    refine ⟨[], ?_, (List.append_nil _).symm, List.forall_mem_nil _⟩
    rw [Signal.answered_outcome, if_neg (by simp [established]), established]
  | record unknown => cases unknown.symm.trans established
  | _ => exact ⟨[], established, (List.append_nil _).symm, List.forall_mem_nil _⟩

theorem succeeds_of_run (run : s.run? moves = some s')
    (established : s.vigil.signal.outcome = .established) : ∃ more, s.Succeeds s' more := by
  refine foldlM_keeps (P := fun next => ∃ more, s.Succeeds next more) ?_
    ⟨[], established, (List.append_nil _).symm, List.forall_mem_nil _⟩ run
  rintro next last move ⟨early, begun⟩ h
  obtain ⟨late, goesOn⟩ := (advances_of_step? h).succeeds begun.established
  refine ⟨early ++ late, goesOn.established, ?_, ?_⟩
  · rw [goesOn.returned, begun.returned, List.append_assoc]
  · exact fun r there => (List.mem_append.mp there).elim (begun.success r) (goesOn.success r)

/-- How the outcome of connecting passes from those who report it to the calls that wait for it. -/
structure Exact (s : Handover) : Prop where
  /-- As long as there is an outcome nobody sleeps who has not been woken. -/
  awake : s.vigil.signal.outcome ≠ .pending → s.vigil.signal.asleep = []
  /-- Every call that was made is under way or has returned, once. -/
  once : (s.vigil.callers ++ s.returned.map (·.call)).Perm s.made ∧
    s.made.map (·.id) = List.range s.vigil.calls
  /-- Nothing that calls were told is left out. -/
  noted : s.vigil.answers = s.returned.map (·.answer)
  /-- The failures that calls were handed, one to each, and the one that is held are those that were
  recorded. -/
  handed : s.recorded = s.returned.filterMap (·.handed?) ++ s.vigil.signal.outcome.held
  /-- A call that found an outcome returned it. -/
  just : ∀ r ∈ s.returned, r.IsJust
  /-- A call that ran out of time had a deadline, which was past, and found no outcome; else the
  failure that it returned was handed to it. -/
  timeout : ∀ r ∈ s.returned, r.result = .error r.call.policy.timeoutFault →
    (r.found = .pending ∧ ∃ deadline, r.call.deadline = some deadline ∧ deadline ≤ r.time) ∨
      r.handed? = some r.call.policy.timeoutFault
  /-- A failure that is reported while there is an outcome changes nothing of it. -/
  discarded : ∀ fault s', s.vigil.signal.outcome ≠ .pending →
    s.step? (.report (.fail fault)) = some s' →
      s'.vigil.signal.outcome = s.vigil.signal.outcome ∧ s'.recorded = s.recorded ∧
        s'.returned = s.returned
  /-- Success stays, and calls return nothing else from then on. -/
  lasting : s.vigil.signal.outcome = .established → ∀ moves s', s.run? moves = some s' →
    ∃ more, s.Succeeds s' more
  /-- Then every call can go on as soon as it has the lock, and returns. -/
  returns : s.vigil.signal.outcome = .established →
    (∀ w ∈ s.vigil.callers, ∃ move s', move.caller? = some w.id ∧ s.step? move = some s') ∧
    ∀ move id s', move.caller? = some id → s.step? move = some s' →
      ∃ r, r.call.id = id ∧ s.Succeeds s' [r]

theorem Returned.timeout {r : Returned} (just : r.IsJust)
    (failed : r.result = .error r.call.policy.timeoutFault) :
    (r.found = .pending ∧ ∃ deadline, r.call.deadline = some deadline ∧ deadline ≤ r.time) ∨
      r.handed? = some r.call.policy.timeoutFault := by
  unfold Returned.IsJust at just
  split at just
  · cases just.symm.trans failed
  · rename_i fault found
    cases just.symm.trans failed
    exact .inr (by simp [Returned.handed?, found])
  · rename_i found
    exact .inl ⟨found, just.2⟩

theorem Advances.discards {fault : Fault} (h : s.Advances (.report (.fail fault)) s')
    (known : s.vigil.signal.outcome ≠ .pending) :
    s'.vigil.signal.outcome = s.vigil.signal.outcome ∧ s'.recorded = s.recorded ∧
      s'.returned = s.returned := by
  cases h with
  | note silent => cases silent
  | record unknown => exact absurd unknown known
  | discard => exact ⟨rfl, rfl, rfl⟩
  | turn caller => cases caller

theorem exact_of_run (run : (start now).run? moves = some s) : s.Exact := by
  have sound := sound_of_run run
  refine
    { awake := sound.awake
      once := ⟨sound.once, sound.numbered⟩
      noted := sound.noted
      handed := sound.handed
      just := sound.just
      timeout := fun r there => Returned.timeout (sound.just r there)
      discarded := fun fault s' known step => (advances_of_step? step).discards known
      lasting := fun established moves s' run => succeeds_of_run run established
      returns := fun established => ⟨fun w there => ?_, fun move id s' caller step => ?_⟩ }
  · have awake := sound.awake (by simp [established])
    obtain ⟨move, v, caller, stepped⟩ := Vigil.goesOn there awake
    exact ⟨move, _, caller, by rw [step?, stepped]; rfl⟩
  · -- Nothing but a call's own turn has a caller.
    cases advances_of_step? step with
    | turn same turn =>
      cases same.symm.trans caller
      exact ⟨_, rfl, turn.succeeds established⟩
    | _ => cases caller

/-- Three calls are woken by a failure. One is handed it and another the next; a failure that is
reported in between is discarded. The third is woken twice for nothing, once by nobody, and sleeps
on until the session is established. A fourth runs out of time before that. -/
def relayed : List Move :=
  [.report .connecting, .call none .usual, .call (some .origin) .usual, .call none .usual,
    .enter 0, .enter 1, .enter 2, .report (.fail (.connectFailed "refused")), .resume 0,
    .resume 2, .stir 2, .report (.fail (.connectFailed "later")),
    .report (.fail (.connectFailed "discarded")), .resume 1, .resume 2,
    .call (some .origin) .usual, .enter 3, .expire 3, .leave 3, .report (.answered true),
    .report (.fail (.connectFailed "too late")), .report .lost, .resume 2]

theorem exact_of_relayed :
    ∃ s, (start .origin).run? relayed = some s ∧ s.Exact ∧
      s.recorded = [.connectFailed "refused", .connectFailed "later"] ∧
      s.returned.map (·.answer) = [⟨0, .error (.connectFailed "refused")⟩,
        ⟨1, .error (.connectFailed "later")⟩, ⟨3, .error RetryPolicy.usual.timeoutFault⟩,
        ⟨2, .ok ()⟩] ∧
      s.vigil.signal.outcome = .established :=
  ⟨_, rfl, @exact_of_run _ relayed .origin rfl, rfl, rfl, rfl⟩

end Handover

end Courier
