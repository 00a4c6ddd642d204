import Courier.Proofs.Session.Connect

/-!
# No timeout before its time

The thread and the call to connect each read the clock, the call first. Whatever calls to disconnect
come in between, neither reports that the time is up before it is, counted from its own reading.
-/

namespace Courier

/-- The time that a policy allows, counted from a start, is up; it is of this length. -/
def RetryPolicy.IsSpent (p : RetryPolicy) (started now : Instant) (budget : Span) : Prop :=
  p.timeout = some budget ∧ ∃ deadline, p.deadline? started = some deadline ∧ deadline ≤ now

/-- At this moment the time is not up. -/
def RetryPolicy.Allows (p : RetryPolicy) (started now : Instant) : Prop :=
  ∀ deadline, p.deadline? started = some deadline → ¬ deadline ≤ now

namespace RetryPolicy

variable {p : RetryPolicy} {started earlier now later deadline : Instant} {budget : Span}

theorem IsSpent.mono (spent : p.IsSpent started now budget) (onward : now ≤ later) :
    p.IsSpent started later budget := by
  obtain ⟨timeout, deadline, limit, past⟩ := spent
  exact ⟨timeout, deadline, limit, Instant.le_trans past onward⟩

/-- Whoever read the clock before was allowed less time from now on. -/
theorem IsSpent.of_earlier (spent : p.IsSpent started now budget) (order : earlier ≤ started) :
    p.IsSpent earlier now budget := by
  obtain ⟨timeout, deadline, limit, past⟩ := spent
  obtain ⟨own, limit, sooner⟩ := deadline?_mono order limit
  exact ⟨timeout, own, limit, Instant.le_trans sooner past⟩

theorem isSpent_of_timeoutFault (fault : p.timeoutFault = .connectTimeout budget)
    (limit : p.deadline? started = some deadline) (past : deadline ≤ now) :
    p.IsSpent started now budget := by
  obtain ⟨own, timeout, -⟩ := deadline?_eq_some limit
  rw [timeoutFault, timeout] at fault
  cases fault
  exact ⟨timeout, deadline, limit, past⟩

end RetryPolicy

/-- The only failure that a thread reports for want of time is the one of its policy. -/
theorem Loop.Reacts.isSpent {l l' : Loop} {now : Instant} {s : Stimulus} {effect : Effect}
    {budget : Span} (r : Loop.Reacts l now s l' effect)
    (timeout : effect = .signal (.fail (.connectTimeout budget))) :
    l.policy.IsSpent l.started now budget := by
  cases r with
  | expire _ _ due | spend _ _ _ due =>
    obtain ⟨deadline, limit, past⟩ := Loop.isDue_iff.mp due
    exact RetryPolicy.isSpent_of_timeoutFault (Signal.Event.fail.inj (Effect.signal.inj timeout))
      limit past
  | observe _ _ quiet =>
    subst timeout
    cases quiet
  | _ => cases timeout

namespace Signal

variable {s : Signal}

theorem fail_outcome_eq_failed {fault fault' : Fault}
    (h : (s.fail fault).outcome = .failed fault') :
    s.outcome = .failed fault' ∨ fault = fault' := by
  rw [fail_outcome] at h
  split at h
  · exact .inr (ConnectOutcome.failed.inj h)
  · exact .inl h

theorem answered_outcome_eq_failed {fault : Fault}
    (h : (s.answered true).outcome = .failed fault) : s.outcome = .failed fault := by
  rw [answered_outcome] at h
  split at h
  · cases h
  · exact h

end Signal

/-- A reaction leaves the failure that is there, or puts the one there that it reports. -/
theorem Loop.Reacts.outcome_eq_failed {l l' : Loop} {now later : Instant} {s : Stimulus}
    {effect : Effect} {signal : Signal} {fault : Fault} (r : Loop.Reacts l now s l' effect)
    (failed : (effect.on later signal).outcome = .failed fault) :
    signal.outcome = .failed fault ∨ effect = .signal (.fail fault) := by
  cases r with
  | observe _ _ quiet => exact .inl (Effect.on_quiet quiet later signal ▸ failed)
  | establish => exact .inl (Signal.answered_outcome_eq_failed failed)
  | expire | refuse | spend | settle =>
    exact (Signal.fail_outcome_eq_failed failed).imp_right fun same => by rw [same]
  | _ => exact .inl failed

/-- A call that stops the thread does not touch the outcome, nor those who wait for it. -/
theorem Manager.Steps.untouched {spawned : Except String Unit} {now : Instant} {id : Nat}
    {m m' : Manager} {c c' : Manager.Call} (h : m.Steps spawned now id c c' m')
    (closing : c.isClosing) : m'.signal.outcome = m.signal.outcome ∧
      m'.signal.sleepers = m.signal.sleepers ∧ m'.policy = m.policy := by
  cases h with
  | sleep awaits | succeed awaits | giveUp awaits => rcases awaits with rfl | rfl <;> cases closing
  | part | proceed | bye | stop | claim | skip | join | reset => exact ⟨rfl, rfl, rfl⟩
  | _ => cases closing

namespace Ensemble

variable {s s' : Ensemble} {moves : List Move} {fault : Fault}

/-- If a failure says that the time is up, then that of the call to connect is. -/
def Excuses (s : Ensemble) (fault : Fault) : Prop :=
  ∀ budget, fault = .connectTimeout budget → s.manager.policy.IsSpent s.opened s.now budget

/-- What a call finds that waits for the outcome. -/
structure Held (s : Ensemble) : Prop where
  told : ∀ fault, s.manager.signal.outcome = .failed fault → s.Excuses fault
  sleepers : ∀ w ∈ s.manager.signal.sleepers, w.deadline = s.limit ∧ w.policy = s.manager.policy

/-- What holds of the time when the call to connect has come so far. -/
def Punctual (s : Ensemble) : Manager.Call → Prop
  | .connect => s.Ready
  | .announce _ deadline | .listen _ deadline | .spawn _ deadline _ => s.Ready ∧ deadline = s.limit
  | .keep deadline | .await deadline | .asleep deadline => s.Held ∧ deadline = s.limit
  | .abandon fault | .stop (.error fault) | .claim (.error fault) | .join (.error fault)
  | .reset (.error fault) | .returned (.error fault) => s.Excuses fault
  | _ => True

structure Timely (s : Ensemble) : Prop where
  opened : s.opened ≤ s.now
  started : ∀ t, s.manager.thread = some t → s.opened ≤ t.loop.started
  underway : ∀ d effect, s.underway = some (d, effect) → d.now ≤ s.now
  call : s.Punctual s.opener

theorem Excuses.mono (h : s.Excuses fault) (policy : s'.manager.policy = s.manager.policy)
    (opened : s'.opened = s.opened) (onward : s.now ≤ s'.now) : s'.Excuses fault := by
  intro budget timeout
  rw [policy, opened]
  exact (h budget timeout).mono onward

theorem Held.mono (held : s.Held) (policy : s'.manager.policy = s.manager.policy)
    (opened : s'.opened = s.opened) (onward : s.now ≤ s'.now)
    (told : ∀ fault, s'.manager.signal.outcome = .failed fault →
      s.manager.signal.outcome = .failed fault ∨ s.Excuses fault)
    (sleepers : ∀ w ∈ s'.manager.signal.sleepers, w ∈ s.manager.signal.sleepers) : s'.Held := by
  have limit : s'.limit = s.limit := by rw [Ensemble.limit, policy, opened, Ensemble.limit]
  constructor
  · intro fault failed
    have excuses : s.Excuses fault := (told fault failed).elim (held.told fault) id
    exact excuses.mono policy opened onward
  · intro w there
    rw [limit, policy]
    exact held.sleepers w (sleepers w there)

theorem Ready.held (ready : s.Ready) : s.Held where
  told fault failed := by cases ready.pending.symm.trans failed
  sleepers w there := by
    rw [ready.alone] at there
    cases there

/-- The call to connect makes no step here. -/
theorem Punctual.aside (punctual : s.Punctual s.opener) (opener : s'.opener = s.opener)
    (policy : s'.manager.policy = s.manager.policy) (opened : s'.opened = s.opened)
    (onward : s.now ≤ s'.now) (ready : s.opener.isEarly → s.Ready → s'.Ready)
    (held : s.Held → s'.Held) : s'.Punctual s'.opener := by
  have limit : s'.limit = s.limit := by rw [Ensemble.limit, policy, opened, Ensemble.limit]
  rw [opener]
  generalize stage : s.opener = call at punctual ⊢
  cases call with
  | connect => exact ready (by rw [stage]; rfl) punctual
  | announce | listen | spawn =>
    exact ⟨ready (by rw [stage]; rfl) punctual.1, punctual.2.trans limit.symm⟩
  | keep | await | asleep => exact ⟨held punctual.1, punctual.2.trans limit.symm⟩
  | abandon fault => exact Excuses.mono punctual policy opened onward
  | stop result | claim result | join result | reset result | returned result =>
    cases result with
    | ok => trivial
    | error fault => exact Excuses.mono punctual policy opened onward
  | disconnect | bye => trivial

/-- What a call learns that has its turn while it waits. -/
theorem Held.giveUp (held : s.Held) {w : OutcomeWaiter} {signal : Signal}
    (waiter : w.deadline = s.limit ∧ w.policy = s.manager.policy)
    (turn : s.manager.signal.Turn s.now w signal [⟨w.id, .error fault⟩]) : s.Excuses fault := by
  cases turn with
  | failure failed => exact held.told fault failed
  | expiry pending outcome state limit late =>
    intro budget timeout
    rw [waiter.2] at timeout
    exact RetryPolicy.isSpent_of_timeoutFault timeout (waiter.1.symm.trans limit) late

theorem Punctual.connect (punctual : s.Punctual s.opener) (untaken : s.opener = .connect →
    s.manager.transport ≠ none) {spawned : Except String Unit} {opener : Manager.Call}
    {manager : Manager} (steps : s.manager.Steps spawned s.now 0 s.opener opener manager) :
    (s.goOn (opener, manager)).Punctual opener := by
  obtain ⟨m, now, call, closers, opened, underway, deeds⟩ := s
  cases steps with
  | refuse taken => exact absurd taken (untaken rfl)
  | take found => exact ⟨⟨punctual.pending, punctual.alone, Instant.le_refl _⟩, rfl⟩
  | announce | listen =>
    exact ⟨⟨punctual.1.pending, punctual.1.alone, punctual.1.opened⟩, punctual.2⟩
  | spawn => exact ⟨⟨punctual.1.held.told, punctual.1.held.sleepers⟩, punctual.2⟩
  | spawnFailed t deadline heard cause =>
    have other (s : Ensemble) : s.Excuses (Manager.spawnFault cause) := fun _ timeout => by
      cases timeout
    exact other _
  | keep => exact ⟨⟨punctual.1.told, punctual.1.sleepers⟩, punctual.2⟩
  | sleep awaits waiter turn =>
    rcases awaits with rfl | rfl
    all_goals
      obtain ⟨held, limit⟩ := punctual
      have waiter := waiter_limit held.sleepers limit waiter
      obtain ⟨outcome, sleepers⟩ := sleep_limit held.sleepers waiter turn
      exact ⟨⟨fun fault failed => held.told fault (outcome.symm.trans failed), sleepers⟩, limit⟩
  | succeed => trivial
  | giveUp awaits waiter turn =>
    rcases awaits with rfl | rfl
    all_goals
      obtain ⟨held, limit⟩ := punctual
      exact held.giveUp (waiter_limit held.sleepers limit waiter) turn
  | abandon fault => exact punctual
  | stop result | @claim result | @skip result | @join result | reset result =>
    cases result with
    | ok => trivial
    | error fault => exact punctual
  | part | proceed | bye => trivial

theorem openedBy_le (opened : s.opened ≤ s.now) : s.openedBy ≤ s.now := by
  unfold openedBy
  split
  · exact Instant.le_refl _
  · exact opened

/-- A thread reads the clock after the call that starts it. -/
theorem Timely.goOn_started (timely : s.Timely) (coherent : s.Coherent)
    {spawned : Except String Unit} {opener : Manager.Call} {manager : Manager}
    (steps : s.manager.Steps spawned s.now 0 s.opener opener manager) {t : NetworkThread}
    (thread : manager.thread = some t) : s.openedBy ≤ t.loop.started := by
  by_cases early : s.opener.isEarly
  · have none := coherent.early early
    obtain ⟨m, now, call, closers, opened, underway, deeds⟩ := s
    cases steps with
    | spawn =>
      cases thread
      exact timely.opened
    | take | announce | listen | spawnFailed | refuse => cases none.symm.trans thread
    | sleep awaits | succeed awaits | giveUp awaits => rcases awaits with rfl | rfl <;> cases early
    | _ => cases early
  · have opened : s.openedBy = s.opened := by
      unfold openedBy
      split
      · rename_i first
        exact absurd (by rw [first]; rfl) early
      · rfl
    rw [opened]
    exact timely.started t ((steps.thread (eq_false_of_ne_true early)).symm.trans thread)

theorem Timely.carryOut (timely : s.Timely) (coherent : s.Coherent) {t : NetworkThread}
    {d : Loop.Deed} {effect : Effect} (underway : s.underway = some (d, effect))
    (thread : s.manager.thread = some t) :
    ({ s with
      manager.thread := some { t with loop := d.after }
      manager.signal := effect.on s.now s.manager.signal
      underway := none
      deeds := s.deeds ++ [d] } : Ensemble).Timely := by
  obtain ⟨-, reacted⟩ := coherent.underway d effect underway t thread
  have lived := coherent.lived t thread
  have r := Loop.reacts_of_react? lived.calm reacted
  have past := timely.underway d effect underway
  have started := timely.started t thread
  refine ⟨timely.opened, fun t' there => ?_, fun d effect idle => ?_, ?_⟩
  · cases there
    exact r.same.2 ▸ started
  · cases idle
  · refine timely.call.aside rfl rfl rfl (Instant.le_refl _) (fun early => ?_) fun held => ?_
    · exact absurd early (ne_true_of_eq_false (coherent.not_early thread))
    · refine held.mono rfl rfl (Instant.le_refl _) (fun fault failed => ?_) fun _ => r.sleepers
      -- What the thread says for want of time is true of the call, which began earlier.
      refine (r.outcome_eq_failed failed).imp_right fun told budget timeout => ?_
      have spent := r.isSpent (timeout ▸ told)
      rw [lived.same.1] at spent
      exact (spent.of_earlier started).mono past

theorem Timely.step (timely : s.Timely) (coherent : s.Coherent) (h : Advances s s') :
    s'.Timely := by
  -- A move that touches neither the clock nor the outcome.
  have calm {s' : Ensemble} (opener : s'.opener = s.opener) (policy : s'.manager.policy =
      s.manager.policy) (opened : s'.opened = s.opened) (now : s'.now = s.now)
      (outcome : s'.manager.signal.outcome = s.manager.signal.outcome)
      (sleepers : s'.manager.signal.sleepers = s.manager.signal.sleepers) :
      s'.Punctual s'.opener := by
    have onward : s.now ≤ s'.now := now ▸ Instant.le_refl _
    refine timely.call.aside opener policy opened onward (fun _ ready => ?_) fun held => ?_
    · refine ⟨outcome.trans ready.pending, sleepers.trans ready.alone, ?_⟩
      rw [opened, now]
      exact ready.opened
    · exact held.mono policy opened onward (fun _ failed => .inl (outcome.symm.trans failed))
        fun w there => sleepers ▸ there
  cases h with
  | connect steps =>
    refine ⟨openedBy_le timely.opened, fun t => timely.goOn_started coherent steps,
      timely.underway, timely.call.connect coherent.untaken steps⟩
  | disconnect =>
    exact ⟨timely.opened, timely.started, timely.underway, calm rfl rfl rfl rfl rfl rfl⟩
  | @close i call next manager there steps =>
    have closing := coherent.closers _ (List.mem_of_getElem? there)
    obtain ⟨-, thread, -⟩ := steps.closing closing
    obtain ⟨outcome, sleepers, policy⟩ := steps.untouched closing
    exact ⟨timely.opened, fun t there => timely.started t (thread.symm.trans there),
      timely.underway, calm rfl policy rfl rfl outcome sleepers⟩
  | pass onward =>
    refine ⟨Instant.le_trans timely.opened onward, timely.started,
      fun d effect underway => Instant.le_trans (timely.underway d effect underway) onward, ?_⟩
    refine timely.call.aside rfl rfl rfl onward (fun _ ready => ?_) fun held => ?_
    · exact ⟨ready.pending, ready.alone, Instant.le_trans ready.opened onward⟩
    · exact held.mono rfl rfl onward (fun _ failed => .inl failed) fun _ there => there
  | launch =>
    refine ⟨timely.opened, fun t there => ?_, timely.underway, calm rfl rfl rfl rfl rfl rfl⟩
    cases there
    exact timely.opened
  | react =>
    refine ⟨timely.opened, timely.started, fun d effect underway => ?_,
      calm rfl rfl rfl rfl rfl rfl⟩
    cases underway
    exact Instant.le_refl _
  | carryOut underway thread => exact timely.carryOut coherent underway thread
  | relink =>
    exact ⟨timely.opened, timely.started, timely.underway, calm rfl rfl rfl rfl rfl rfl⟩

theorem timely_start {m : Manager} (unused : m.Unused) (now : Instant) : (start m now).Timely where
  opened := Instant.le_refl _
  started t thread := by cases unused.thread.symm.trans thread
  underway _ _ underway := by cases underway
  call := ⟨by rw [Ensemble.start, unused.signal]; rfl, by rw [Ensemble.start, unused.signal]; rfl,
    Instant.le_refl _⟩

end Ensemble

end Courier
