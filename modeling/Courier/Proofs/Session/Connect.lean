import Courier.Proofs.Session.Ensemble
import Courier.Proofs.Session.Retry

/-!
# What a call to connect may rely on

A call to connect beside the network thread, with no call to disconnect. It succeeds only if the
broker has established the session. If it fails then the thread is gone when it returns, and the
failure tells what happened: never only that the call gave up.
-/

namespace Courier

namespace Ensemble

variable {s s' : Ensemble} {fault : Fault} {moves : List Move}

/-- When the call to connect runs out of time. -/
def limit (s : Ensemble) : Option Instant := s.manager.policy.deadline? s.opened

/-- What a failure to connect tells about what has happened. -/
inductive Explains (s : Ensemble) : Fault → Prop where
  | late {budget : Span} {deadline : Instant} (timeout : s.manager.policy.timeout = some budget)
      (limit : s.limit = some deadline) (passed : deadline ≤ s.now) :
      s.Explains (.connectTimeout budget)
  | refused {d : Loop.Deed} {e : TransportError} (done : d ∈ s.deeds)
      (cause : d.stimulus = .polled (.error e)) (fatal : e.isFatal) :
      s.Explains (.connectFailed e.text)
  | parted {d : Loop.Deed} (done : d ∈ s.deeds) (farewell : d.stimulus.isFarewell)
      (unconnected : d.before.connected = false) : s.Explains Loop.stopFault
  | unstarted {cause : String} (thread : s.manager.thread = none) :
      s.Explains (Manager.spawnFault cause)

theorem Explains.of_deadline {deadline : Instant} (limit : s.limit = some deadline)
    (passed : deadline ≤ s.now) : s.Explains s.manager.policy.timeoutFault := by
  obtain ⟨budget, timeout, -⟩ := RetryPolicy.deadline?_eq_some limit
  rw [RetryPolicy.timeoutFault, timeout]
  exact .late timeout limit passed

theorem Explains.mono (h : s.Explains fault) (policy : s'.manager.policy = s.manager.policy)
    (opened : s'.opened = s.opened) (now : s.now ≤ s'.now) (deeds : ∀ d ∈ s.deeds, d ∈ s'.deeds)
    (thread : s.manager.thread = none → s'.manager.thread = none) : s'.Explains fault := by
  cases h with
  | late timeout limit passed =>
    refine .late (policy ▸ timeout) ?_ (Instant.le_trans passed now)
    rw [Ensemble.limit, policy, opened]
    exact limit
  | refused done cause fatal => exact .refused (deeds _ done) cause fatal
  | parted done farewell unconnected => exact .parted (deeds _ done) farewell unconnected
  | unstarted none => exact .unstarted (thread none)

theorem text_refused (code : ConnectCode) :
    (TransportError.refused code).text = s!"Connection refused, return code: `{code.name}`" := by
  unfold TransportError.text
  with_reducible rfl

theorem head?_refusal (name : String) :
    (s!"Connection refused, return code: `{name}`").toList.head? = some 'C' := by
  simp [toString, String.toList_append]

theorem head?_text {e : TransportError} (fatal : e.isFatal) : e.text.toList.head? = some 'C' := by
  cases e with
  | refused code =>
    rw [text_refused]
    exact head?_refusal _
  | _ => cases fatal

theorem refusal_ne_abandonFault {e : TransportError} (fatal : e.isFatal) :
    Fault.connectFailed e.text ≠ Manager.abandonFault := by
  intro same
  have head := head?_text fatal
  rw [Fault.connectFailed.inj same] at head
  simp at head

theorem spawnFault_ne_abandonFault (cause : String) :
    Manager.spawnFault cause ≠ Manager.abandonFault := by
  intro same
  simp only [Manager.spawnFault, Manager.abandonFault, Fault.connectFailed.injEq] at same
  have head := congrArg (fun text : String => text.toList.head?) same
  simp [toString, String.toList_append] at head

/-- No failure tells no more than that the call gave up. -/
theorem Explains.ne_abandonFault (h : s.Explains fault) : fault ≠ Manager.abandonFault := by
  cases h with
  | late => exact nofun
  | refused _ _ fatal => exact refusal_ne_abandonFault fatal
  | parted => simp [Loop.stopFault, Manager.abandonFault]
  | unstarted => exact spawnFault_ne_abandonFault _

/-- Nothing has been said about the outcome yet, and nobody waits for it. -/
structure Ready (s : Ensemble) : Prop where
  pending : s.manager.signal.outcome = .pending
  alone : s.manager.signal.sleepers = []
  opened : s.opened ≤ s.now

/-- The thread is at work, and the call has not learnt the outcome yet. -/
structure Waits (s : Ensemble) : Prop where
  thread : ∃ t, s.manager.thread = some t ∧ t.heard = s.manager.stops ∧
    s.opened ≤ t.loop.started ∧ t.loop.started ≤ s.now ∧
    Loop.Settled s.manager.policy t.loop.started t.loop s.deeds s.manager.signal.outcome
  done : ∀ d ∈ s.deeds, d.stimulus ≠ .shutdown ∧ d.now ≤ s.now
  underway : ∀ d effect, s.underway = some (d, effect) → d.stimulus ≠ .shutdown ∧ d.now ≤ s.now
  sleepers : ∀ w ∈ s.manager.signal.sleepers, w.deadline = s.limit ∧ w.policy = s.manager.policy

/-- A failure that the waiting call finds tells what the thread did. -/
theorem Waits.explains (waits : s.Waits) (coherent : s.Coherent)
    (failed : s.manager.signal.outcome = .failed fault) : s.Explains fault := by
  obtain ⟨t, thread, -, opened, -, settled⟩ := waits.thread
  have unconnected : t.loop.connected = false :=
    eq_false_of_ne_true fun connected => by simp [settled.established connected] at failed
  have outside : t.loop.stage.isInside = false :=
    eq_false_of_ne_true fun inside => by simp [settled.waiting inside unconnected] at failed
  obtain ⟨fault', first, told⟩ := settled.failed outside unconnected
  have same : fault' = fault := by
    rcases told with same | ⟨-, pending, -⟩
    · exact ConnectOutcome.failed.inj (same.symm.trans failed)
    · cases pending.symm.trans failed
  subst same
  obtain ⟨d, done, reason⟩ := List.exists_of_findSome?_eq_some first
  obtain ⟨unasked, past⟩ := waits.done d done
  rcases Stimulus.reason?_eq_some reason with ⟨due, rfl⟩ | ⟨e, cause, fatal, rfl⟩ | ⟨cause, rfl⟩
  · -- The thread began after the call, so its time ends after that of the call.
    obtain ⟨deadline, limit, passed⟩ := Loop.isDue_iff.mp due
    obtain ⟨own, limit, earlier⟩ := RetryPolicy.deadline?_mono opened limit
    exact .of_deadline limit (Instant.le_trans earlier (Instant.le_trans passed past))
  · exact .refused done cause fatal
  · refine .parted done (cause.resolve_left unasked) (eq_false_of_ne_true fun connected => ?_)
    have still := (coherent.lived t thread).connected_of_mem done connected
    exact absurd still (ne_true_of_eq_false unconnected)

/-! ## How far the call has come -/

/-- What holds when the call to connect has come so far. -/
def Phase (s : Ensemble) : Manager.Call → Prop
  | .connect => s.Ready
  | .announce _ deadline | .listen _ deadline => s.Ready ∧ deadline = s.limit
  | .spawn _ deadline heard => s.Ready ∧ deadline = s.limit ∧ heard = s.manager.stops
  | .keep deadline => s.Waits ∧ deadline = s.limit
  | .await deadline | .asleep deadline => s.Waits ∧ deadline = s.limit ∧ s.manager.joinable
  | .abandon fault | .stop (.error fault) | .claim (.error fault) =>
    s.Explains fault ∧ s.manager.joinable
  | .join (.error fault) => s.Explains fault
  | .reset (.error fault) =>
    s.Explains fault ∧ ∀ t, s.manager.thread = some t → t.loop.stage = .gone
  | .returned (.ok ()) => ∃ d ∈ s.deeds, d.stimulus.isSuccess
  | .returned (.error fault) => s.Explains fault ∧ s.AtRest
  | _ => False

/-- A call that goes on has the same to tell. -/
theorem Explains.goOn {opener : Manager.Call} {manager : Manager} (h : s.Explains fault)
    (opened : s.openedBy = s.opened) (policy : manager.policy = s.manager.policy)
    (thread : manager.thread = s.manager.thread) : (s.goOn (opener, manager)).Explains fault :=
  h.mono policy opened (Instant.le_refl _) (fun _ done => done) thread.trans

theorem Ready.spawn (ready : s.Ready) (early : s.opener.isEarly) (coherent : s.Coherent)
    (opened : s.openedBy = s.opened) {t : Transport} {heard : Nat}
    (unasked : heard = s.manager.stops) {opener : Manager.Call} :
    (s.goOn (opener, { s.manager with
      thread := some ⟨.fresh s.manager.policy s.now, t, heard, none⟩ })).Waits := by
  obtain ⟨deeds, idle, -⟩ := coherent.absent (coherent.early early)
  refine ⟨⟨_, rfl, unasked, ?_, Instant.le_refl _, ?_⟩, fun d done => ?_,
    fun d effect underway => ?_, fun w there => ?_⟩
  · change s.openedBy ≤ s.now
    rw [opened]
    exact ready.opened
  · change Loop.Settled _ _ _ s.deeds s.manager.signal.outcome
    rw [deeds, ready.pending]
    exact .begun
  · change d ∈ s.deeds at done
    rw [deeds] at done
    cases done
  · cases idle.symm.trans underway
  · change w ∈ s.manager.signal.sleepers at there
    rw [ready.alone] at there
    cases there

theorem Waits.goOn (waits : s.Waits) (opened : s.openedBy = s.opened) {opener : Manager.Call}
    {signal : Signal} {joinable : Bool} (outcome : signal.outcome = s.manager.signal.outcome)
    (sleepers : ∀ w ∈ signal.sleepers, w.deadline = s.limit ∧ w.policy = s.manager.policy) :
    (s.goOn (opener, { s.manager with signal, joinable })).Waits := by
  have limit : (s.goOn (opener, { s.manager with signal, joinable })).limit = s.limit :=
    congrArg s.manager.policy.deadline? opened
  obtain ⟨t, thread, heard, order, past, settled⟩ := waits.thread
  refine ⟨⟨t, thread, heard, ?_, past, ?_⟩, waits.done, waits.underway, ?_⟩
  · change s.openedBy ≤ _
    rw [opened]
    exact order
  · exact outcome ▸ settled
  · exact limit ▸ sleepers

/-- The outcome that lets a call succeed comes from the broker's answer. -/
theorem Waits.success (waits : s.Waits) (coherent : s.Coherent)
    (established : s.manager.signal.outcome = .established) :
    ∃ d ∈ s.deeds, d.stimulus.isSuccess := by
  obtain ⟨t, thread, -, -, -, settled⟩ := waits.thread
  refine (coherent.lived t thread).connected_iff.mp ?_
  by_contra connected
  have unconnected := eq_false_of_ne_true connected
  by_cases inside : t.loop.stage.isInside
  · cases (settled.waiting inside unconnected).1.symm.trans established
  · obtain ⟨fault, -, failed | ⟨-, pending, -⟩⟩ :=
      settled.failed (eq_false_of_ne_true inside) unconnected
    · cases failed.symm.trans established
    · cases pending.symm.trans established

/-- Whoever waits is the call to connect, with its time. -/
theorem waiter_limit (sleepers : ∀ w ∈ s.manager.signal.sleepers,
      w.deadline = s.limit ∧ w.policy = s.manager.policy)
    {deadline : Option Instant} (limit : deadline = s.limit) {w : OutcomeWaiter} {id : Nat}
    (waiter : w = ⟨id, deadline, s.manager.policy⟩ ∨ w ∈ s.manager.signal.sleepers) :
    w.deadline = s.limit ∧ w.policy = s.manager.policy := by
  rcases waiter with rfl | asleep
  · exact ⟨limit, rfl⟩
  · exact sleepers w asleep

theorem sleep_limit (sleepers : ∀ w ∈ s.manager.signal.sleepers,
      w.deadline = s.limit ∧ w.policy = s.manager.policy)
    {w : OutcomeWaiter} {signal : Signal}
    (waiter : w.deadline = s.limit ∧ w.policy = s.manager.policy)
    (turn : s.manager.signal.Turn s.now w signal []) :
    signal.outcome = s.manager.signal.outcome ∧
      ∀ w ∈ signal.sleepers, w.deadline = s.limit ∧ w.policy = s.manager.policy := by
  cases turn with
  | sleep pending outcome state others =>
    refine ⟨outcome.trans pending.symm, fun other there => ?_⟩
    rcases others other there with rfl | asleep
    · exact waiter
    · exact sleepers other asleep

theorem Waits.giveUp (waits : s.Waits) (coherent : s.Coherent) {w : OutcomeWaiter} {signal : Signal}
    (waiter : w.deadline = s.limit ∧ w.policy = s.manager.policy)
    (turn : s.manager.signal.Turn s.now w signal [⟨w.id, .error fault⟩]) : s.Explains fault := by
  cases turn with
  | failure failed => exact waits.explains coherent failed
  | expiry pending outcome state limit late =>
    rw [waiter.2]
    exact .of_deadline (waiter.1.symm.trans limit) late

theorem Phase.connect (phase : s.Phase s.opener) (coherent : s.Coherent)
    {spawned : Except String Unit} {opener : Manager.Call} {manager : Manager}
    (steps : s.manager.Steps spawned s.now 0 s.opener opener manager) :
    (s.goOn (opener, manager)).Phase opener := by
  obtain ⟨m, now, call, closers, opened, underway, deeds⟩ := s
  cases steps with
  | refuse taken => exact absurd taken (coherent.untaken rfl)
  | take found => exact ⟨⟨phase.pending, phase.alone, Instant.le_refl _⟩, rfl⟩
  | announce => exact ⟨⟨phase.1.pending, phase.1.alone, phase.1.opened⟩, phase.2⟩
  | listen => exact ⟨⟨phase.1.pending, phase.1.alone, phase.1.opened⟩, phase.2, rfl⟩
  | spawn t deadline heard =>
    obtain ⟨ready, limit, unasked⟩ := phase
    exact ⟨ready.spawn rfl coherent rfl unasked, limit⟩
  | spawnFailed t deadline heard cause =>
    -- Without a thread the call is at rest at once, for it reports the failure itself.
    have none := coherent.early rfl
    refine ⟨.unstarted none, rfl, fun t thread => ?_, (coherent.absent none).2.1, ?_⟩
    · cases none.symm.trans thread
    · exact Signal.fail_state ..
  | keep deadline => exact ⟨phase.1.goOn rfl rfl phase.1.sleepers, phase.2, rfl⟩
  | sleep awaits waiter turn =>
    rcases awaits with rfl | rfl
    all_goals
      obtain ⟨waits, limit, joinable⟩ := phase
      have waiter := waiter_limit waits.sleepers limit waiter
      obtain ⟨outcome, sleepers⟩ := sleep_limit waits.sleepers waiter turn
      exact ⟨waits.goOn rfl outcome sleepers, limit, joinable⟩
  | succeed awaits waiter turn =>
    have established : m.signal.outcome = .established := by
      cases turn with
      | success established => exact established
    rcases awaits with rfl | rfl
    all_goals exact phase.1.success coherent established
  | giveUp awaits waiter turn =>
    rcases awaits with rfl | rfl
    all_goals
      obtain ⟨waits, limit, joinable⟩ := phase
      have waiter := waiter_limit waits.sleepers limit waiter
      have explains := waits.giveUp coherent waiter turn
      exact ⟨explains.goOn rfl rfl rfl, joinable⟩
  | abandon fault => exact ⟨phase.1.goOn rfl rfl rfl, phase.2⟩
  | stop result =>
    cases result with
    | ok => exact phase.elim
    | error fault => exact ⟨phase.1.goOn rfl rfl rfl, phase.2⟩
  | @claim result joinable =>
    cases result with
    | ok => exact phase.elim
    | error fault => exact phase.1.goOn rfl rfl rfl
  | @skip result claimed =>
    cases result with
    | ok => exact phase.elim
    | error fault => exact absurd phase.2 (ne_true_of_eq_false claimed)
  | @join result gone =>
    cases result with
    | ok => exact phase.elim
    | error fault => exact ⟨phase.goOn rfl rfl rfl, gone⟩
  | reset result =>
    cases result with
    | ok => exact phase.elim
    | error fault =>
      exact ⟨phase.1.goOn rfl rfl rfl, rfl, phase.2, coherent.idle_of_gone phase.2, rfl⟩
  | part | proceed | bye => exact phase.elim

/-! ## What the thread does in the meantime -/

/-- What the call to connect sees of a move that is not its own. -/
structure Aside (s s' : Ensemble) : Prop where
  opener : s'.opener = s.opener
  limit : s'.limit = s.limit
  stops : s'.manager.stops = s.manager.stops
  joinable : s'.manager.joinable = s.manager.joinable
  deeds : ∀ d ∈ s.deeds, d ∈ s'.deeds
  explains : ∀ fault, s.Explains fault → s'.Explains fault
  ready : s.opener.isEarly → s.Ready → s'.Ready
  waits : s.Waits → s'.Waits
  gone : (∀ t, s.manager.thread = some t → t.loop.stage = .gone) →
    ∀ t, s'.manager.thread = some t → t.loop.stage = .gone
  rest : s.AtRest → s'.AtRest

theorem Phase.aside (phase : s.Phase s.opener) (aside : Aside s s') : s'.Phase s'.opener := by
  rw [aside.opener]
  generalize stage : s.opener = call at phase ⊢
  cases call with
  | connect => exact aside.ready (by rw [stage]; rfl) phase
  | announce t deadline | listen t deadline =>
    exact ⟨aside.ready (by rw [stage]; rfl) phase.1, phase.2.trans aside.limit.symm⟩
  | spawn t deadline heard =>
    exact ⟨aside.ready (by rw [stage]; rfl) phase.1, phase.2.1.trans aside.limit.symm,
      phase.2.2.trans aside.stops.symm⟩
  | keep deadline =>
    exact ⟨aside.waits phase.1, phase.2.trans aside.limit.symm⟩
  | await deadline | asleep deadline =>
    exact ⟨aside.waits phase.1, phase.2.1.trans aside.limit.symm, aside.joinable.trans phase.2.2⟩
  | abandon fault =>
    exact ⟨aside.explains fault phase.1, aside.joinable.trans phase.2⟩
  | disconnect | bye => exact phase.elim
  | stop result | claim result =>
    cases result with
    | ok => exact phase.elim
    | error fault => exact ⟨aside.explains fault phase.1, aside.joinable.trans phase.2⟩
  | join result =>
    cases result with
    | ok => exact phase.elim
    | error fault => exact aside.explains fault phase
  | reset result =>
    cases result with
    | ok => exact phase.elim
    | error fault => exact ⟨aside.explains fault phase.1, aside.gone phase.2⟩
  | returned result =>
    cases result with
    | ok =>
      obtain ⟨d, done, success⟩ := phase
      exact ⟨d, aside.deeds d done, success⟩
    | error fault => exact ⟨aside.explains fault phase.1, aside.rest phase.2⟩

theorem Waits.pass (waits : s.Waits) {later : Instant} (onward : s.now ≤ later) :
    ({ s with now := later } : Ensemble).Waits := by
  obtain ⟨t, thread, heard, order, past, settled⟩ := waits.thread
  refine ⟨⟨t, thread, heard, order, Instant.le_trans past onward, settled⟩, fun d done => ?_,
    fun d effect underway => ?_, waits.sleepers⟩
  · exact (waits.done d done).imp_right (Instant.le_trans · onward)
  · exact (waits.underway d effect underway).imp_right (Instant.le_trans · onward)

theorem Waits.launch (waits : s.Waits) {t : NetworkThread} (thread : s.manager.thread = some t)
    (fresh : s.deeds = []) (coherent : s.Coherent) :
    ({ s with manager.thread := some { t with loop := .fresh s.manager.policy s.now } } :
      Ensemble).Waits := by
  obtain ⟨t', thread', heard, order, past, settled⟩ := waits.thread
  cases thread.symm.trans thread'
  have begun := (coherent.lived t thread).eq_of_nil fresh
  have pending := (settled.waiting (by rw [begun]; rfl) (by rw [begun]; rfl)).1
  refine ⟨⟨_, rfl, heard, Instant.le_trans order past, Instant.le_refl _, ?_⟩, waits.done,
    waits.underway, waits.sleepers⟩
  change Loop.Settled _ _ _ s.deeds s.manager.signal.outcome
  rw [fresh, pending]
  exact .begun

theorem Waits.react (waits : s.Waits) {t : NetworkThread} {stimulus : Stimulus} {loop : Loop}
    {effect : Effect} (thread : s.manager.thread = some t)
    (asked : stimulus = .shutdown → t.heard < s.manager.stops) :
    ({ s with underway := some (⟨s.now, t.loop, stimulus, loop⟩, effect) } : Ensemble).Waits := by
  obtain ⟨t', thread', heard, -⟩ := waits.thread
  cases thread.symm.trans thread'
  refine ⟨waits.thread, waits.done, fun d effect underway => ?_, waits.sleepers⟩
  cases underway
  refine ⟨fun shutdown => ?_, Instant.le_refl _⟩
  -- Nobody asks the thread to stop while the call still waits.
  have := asked shutdown
  omega

theorem Waits.carryOut (waits : s.Waits) {t : NetworkThread} {d : Loop.Deed} {effect : Effect}
    (underway : s.underway = some (d, effect)) (thread : s.manager.thread = some t)
    (coherent : s.Coherent) :
    ({ s with
      manager.thread := some { t with loop := d.after }
      manager.signal := effect.on s.now s.manager.signal
      underway := none
      deeds := s.deeds ++ [d] } : Ensemble).Waits := by
  obtain ⟨t', thread', heard, order, past, settled⟩ := waits.thread
  cases thread.symm.trans thread'
  have lived := coherent.lived t thread
  obtain ⟨before, reacted⟩ := coherent.underway d effect underway t thread
  have r := Loop.reacts_of_react? lived.calm reacted
  have same : (⟨d.now, t.loop, d.stimulus, d.after⟩ : Loop.Deed) = d := by rw [← before]
  refine ⟨⟨_, rfl, heard, ?_, ?_, ?_⟩, ?_, ?_, fun w there => waits.sleepers w (r.sleepers there)⟩
  · change s.opened ≤ d.after.started
    rw [r.same.2]
    exact order
  · change d.after.started ≤ s.now
    rw [r.same.2]
    exact past
  · have after : Loop.Settled s.manager.policy t.loop.started d.after (s.deeds ++ [d])
        (effect.on s.now s.manager.signal).outcome := same ▸ settled.react lived r
    rw [← r.same.2] at after
    exact after
  · simp only [List.forall_mem_append, List.forall_mem_singleton]
    exact ⟨waits.done, waits.underway d effect underway⟩
  · intro d effect none
    cases none

theorem Phase.step (phase : s.Phase s.opener) (coherent : s.Coherent) (h : Advances s s')
    (alone : s'.closers = []) : s'.Phase s'.opener := by
  have rest : s.AtRest → s'.AtRest := fun rest => rest.step coherent h
  have tells (thread : s.manager.thread = none → s'.manager.thread = none)
      (policy : s'.manager.policy = s.manager.policy) (opened : s'.opened = s.opened)
      (now : s.now ≤ s'.now) (deeds : ∀ d ∈ s.deeds, d ∈ s'.deeds) (fault : Fault)
      (explains : s.Explains fault) : s'.Explains fault :=
    explains.mono policy opened now deeds thread
  cases h with
  | connect steps => exact phase.connect coherent steps
  | disconnect => simp at alone
  | close there =>
    have none : s.closers = [] := by simpa using alone
    simp [none] at there
  | pass onward =>
    exact phase.aside
      { opener := rfl, limit := rfl, stops := rfl, joinable := rfl, deeds := fun _ done => done
        explains := tells id rfl rfl onward fun _ done => done
        ready := fun _ ready => ⟨ready.pending, ready.alone, Instant.le_trans ready.opened onward⟩
        waits := (·.pass onward), gone := id, rest }
  | @launch t thread fresh idle =>
    have late := coherent.not_early thread
    -- The clock is read again only by a thread that has done nothing: such a one is not gone.
    have going (gone : ∀ t, s.manager.thread = some t → t.loop.stage = .gone) : False := by
      have gone := gone t thread
      rw [(coherent.lived t thread).eq_of_nil fresh] at gone
      cases gone
    exact phase.aside
      { opener := rfl, limit := rfl, stops := rfl, joinable := rfl, deeds := fun _ done => done
        explains := tells (fun none => by cases none.symm.trans thread) rfl rfl (Instant.le_refl _)
          fun _ done => done
        ready := fun early => absurd early (ne_true_of_eq_false late)
        waits := fun waits => waits.launch thread fresh coherent
        gone := fun gone => (going gone).elim
        rest }
  | react thread idle asked reacted =>
    exact phase.aside
      { opener := rfl, limit := rfl, stops := rfl, joinable := rfl, deeds := fun _ done => done
        explains := tells id rfl rfl (Instant.le_refl _) fun _ done => done
        ready := fun _ ready => ⟨ready.pending, ready.alone, ready.opened⟩
        waits := fun waits => waits.react thread asked
        gone := id
        rest }
  | @carryOut t d effect underway thread =>
    have late := coherent.not_early thread
    exact phase.aside
      { opener := rfl, limit := rfl, stops := rfl, joinable := rfl
        deeds := fun _ done => List.mem_append_left _ done
        explains := tells (fun none => by cases none.symm.trans thread) rfl rfl (Instant.le_refl _)
          fun _ done => List.mem_append_left _ done
        ready := fun early => absurd early (ne_true_of_eq_false late)
        waits := fun waits => waits.carryOut underway thread coherent
        gone := fun gone => by cases (coherent.idle_of_gone gone).symm.trans underway
        rest }
  | relink link =>
    exact phase.aside
      { opener := rfl, limit := rfl, stops := rfl, joinable := rfl, deeds := fun _ done => done
        explains := tells id rfl rfl (Instant.le_refl _) fun _ done => done
        ready := fun _ ready => ⟨ready.pending, ready.alone, ready.opened⟩
        waits := fun waits => ⟨waits.thread, waits.done, waits.underway, waits.sleepers⟩
        gone := id
        rest }

theorem Advances.alone (h : Advances s s') (alone : s'.closers = []) : s.closers = [] := by
  cases h with
  | disconnect => simp at alone
  | close => simpa using alone
  | _ => exact alone

theorem phase_of_run {m : Manager} {now : Instant} (unused : m.Unused)
    (run : (start m now).run? moves = some s) (alone : s.closers = []) : s.Phase s.opener := by
  have init : (start m now).Phase (start m now).opener :=
    ⟨by rw [Ensemble.start, unused.signal]; rfl, by rw [Ensemble.start, unused.signal]; rfl,
      Instant.le_refl _⟩
  have both := (Coherent.start unused now).keeps
    (P := fun s => s.closers = [] → s.Phase s.opener)
    (fun coherent phase h alone => (phase (h.alone alone)).step coherent h alone)
    (fun _ => init) run
  exact both.2 alone

/-- If the call succeeds then the broker has established the session. If it fails then nobody is at
work when it returns, nor ever after, and the failure tells what happened. -/
theorem connect_sound {m : Manager} {now : Instant} (unused : m.Unused)
    (run : (start m now).run? moves = some s) (alone : s.closers = []) :
    (s.opener = .returned (.ok ()) → ∃ d ∈ s.deeds, d.stimulus.isSuccess) ∧
    ∀ fault, s.opener = .returned (.error fault) →
      s.AtRest ∧ (∀ moves s', s.run? moves = some s' → s'.AtRest) ∧
      s.Explains fault ∧ fault ≠ Manager.abandonFault := by
  have phase := phase_of_run unused run alone
  refine ⟨fun returned => ?_, fun fault returned => ?_⟩
  · rw [returned] at phase
    exact phase
  · rw [returned] at phase
    obtain ⟨explains, rest⟩ := phase
    exact ⟨rest, fun _ _ more => rest.run (coherent_of_run unused run) more, explains,
      explains.ne_abandonFault⟩

/-- The time of the call is over just when the thread is about to tell that the session is there. -/
def lateAnswer : List Move :=
  [.connect (.ok ()), .connect (.ok ()), .connect (.ok ()), .connect (.ok ()), .launch,
    .connect (.ok ()), .connect (.ok ()),
    .react (.polled (.ok (.incoming (.connAck false .success)))),
    .pass ⟨1000000000, by decide⟩, .connect (.ok ()), .connect (.ok ()), .carryOut,
    .connect (.ok ()), .connect (.ok ()), .react .shutdown, .carryOut, .react .drained, .carryOut,
    .react .proceed, .carryOut, .connect (.ok ()), .connect (.ok ())]

def oneSecond : RetryPolicy := ⟨Span.ofSecs 1, some (Span.ofSecs 1)⟩

theorem connect_sound_lateAnswer :
    ∃ s, (start (newManager oneSecond) .origin).run? lateAnswer = some s ∧
      s.opener = .returned (.error (.connectTimeout (Span.ofSecs 1))) ∧
      s.deeds.any (·.stimulus.isSuccess) ∧ s.AtRest :=
  ⟨_, rfl, rfl, rfl,
    ((@connect_sound _ lateAnswer _ .origin (newManager_unused oneSecond) rfl rfl).2 _ rfl).1⟩

end Ensemble

end Courier
