import Courier.Proofs.Run
import Courier.Proofs.Session.Outcome
import Courier.Session.Client

/-!
# One network thread from its beginning to its end

A network thread and the calls that wait for it to connect, of which none has been told of a
failure yet. Whatever the broker sends, however the transport fails and whenever the thread is
asked to stop, it connects at most once and tells the calls how that ended.
-/

namespace Courier

namespace Client

theorem publish_manager (side : Side) (c : Client) (topic : String) (payload : List UInt8)
    (guarantee : Guarantee) :
    ∃ link, (c.publish side topic payload guarantee).2.manager = { c.manager with link } := by
  unfold publish
  split
  · exact ⟨c.manager.link, rfl⟩
  · dsimp only
    split <;> exact ⟨_, rfl⟩

theorem carryOut_manager (c : Client) (order : Order) :
    ∃ link, (c.carryOut order).manager = { c.manager with link } := by
  cases order with
  | publish topic payload guarantee => exact publish_manager ..
  | add | remove => exact ⟨_, rfl⟩

theorem dispatch_manager (c : Client) (m : Message) :
    ∃ link, (c.dispatch m).manager = { c.manager with link } := by
  have orders (os : List Order) (c : Client) :
      ∃ link, (os.foldl carryOut c).manager = { c.manager with link } := by
    induction os generalizing c with
    | nil => exact ⟨c.manager.link, rfl⟩
    | cons order os ih =>
      obtain ⟨_, first⟩ := c.carryOut_manager order
      obtain ⟨link, rest⟩ := ih (c.carryOut order)
      exact ⟨link, by rw [List.foldl_cons, rest, first]⟩
  unfold dispatch
  split
  · exact ⟨c.manager.link, rfl⟩
  · dsimp only
    split
    · exact orders ..
    · exact ⟨c.manager.link, rfl⟩

/-- What a client does with an effect. -/
theorem apply_manager (c : Client) (now : Instant) (effect : Effect) :
    ∃ link, (c.apply now effect).manager =
      { c.manager with signal := effect.on now c.manager.signal, link } := by
  cases effect with
  | none => exact ⟨c.manager.link, rfl⟩
  | dispatch m => exact c.dispatch_manager m
  | signal e =>
    refine ⟨c.manager.link, ?_⟩
    unfold apply Effect.on
    dsimp only
    split
    · rename_i signal answers h
      change c.manager.signal.step? now e = _ at h
      rw [h]
      rfl
    · rename_i h
      change c.manager.signal.step? now e = _ at h
      rw [h]
      rfl

end Client

def ConnectOutcome.isFailed : ConnectOutcome → Bool
  | .failed _ => true
  | _ => false

/-- A call that waits changes nothing, unless it takes a failure. -/
theorem Signal.Turn.same {s s' : Signal} {now : Instant} {w : OutcomeWaiter}
    {answers : List Signal.Answer} (turn : s.Turn now w s' answers)
    (untaken : s.outcome.isFailed = false) : s'.outcome = s.outcome ∧ s'.state = s.state := by
  cases turn with
  | sleep pending outcome state => exact ⟨outcome.trans pending.symm, state⟩
  | success established outcome state => exact ⟨outcome.trans established.symm, state⟩
  | failure failed =>
    rw [failed] at untaken
    cases untaken
  | expiry pending outcome state => exact ⟨outcome.trans pending.symm, state⟩

namespace Loop

variable {l l' : Loop} {deeds : List Deed} {policy : RetryPolicy} {started now later : Instant}
  {s : Stimulus} {effect : Effect} {signal : Signal} {state : SessionState}

/-- What the state of the session tells about the thread. -/
structure Shown (l : Loop) (deeds : List Deed) (state : SessionState) : Prop where
  inside : l.stage.isInside → l.connected → state = .connected
  left : l.stage.isInside = false → l.connected →
    ∀ d, exit? deeds = some d → state = if d.isStop then .connected else .disconnected
  gone : l.stage = .gone → l.connected = false → state = .disconnected

theorem Shown.begun : Shown (fresh policy started) [] state where
  inside _ connected := by cases connected
  left outside := by cases outside
  gone gone := by cases gone

/-- How a thread with a session leaves its loop: asked to stop, or by losing the session. -/
theorem Reacts.leaves_connected (r : Reacts l now s l' effect) (inside : l.stage.isInside)
    (outside : l'.stage.isInside = false) (connected : l.connected)
    (shown : signal.state = .connected) : (effect.on later signal).state =
      if (⟨now, l, s, l'⟩ : Deed).isStop then .connected else .disconnected := by
  cases r with
  | drain => simp [Effect.on, Deed.isStop, connected, shown]
  | part _ farewell =>
    rw [Deed.isStop_of_isPoll (Stimulus.isPoll_of_isFarewell farewell)]
    rfl
  | lose _ _ error =>
    rw [Deed.isStop_of_isPoll (Stimulus.isPoll_of_isError error)]
    rfl
  | stop _ unconnected | expire _ unconnected | refuse _ unconnected | spend _ unconnected
  | pause _ unconnected | retry _ unconnected | settle _ unconnected =>
    exact absurd connected (ne_true_of_eq_false unconnected)
  | establish polling | observe polling =>
    exact absurd (Stage.isInside_of_polling polling) (ne_true_of_eq_false outside)
  | drained stage | finish stage =>
    rw [stage] at inside
    cases inside

/-- Out of its loop, a thread with a session says nothing. -/
theorem Reacts.state_of_outside (r : Reacts l now s l' effect) (outside : l.stage.isInside = false)
    (connected : l.connected) : (effect.on later signal).state = signal.state := by
  cases r with
  | drained | finish => rfl
  | settle _ unconnected => exact absurd connected (ne_true_of_eq_false unconnected)
  | stop inside | expire inside => exact absurd inside (ne_true_of_eq_false outside)
  | retry pause => exact absurd (Stage.isInside_of_isPause pause) (ne_true_of_eq_false outside)
  | drain polling | establish polling | observe polling | part polling | lose polling
  | refuse polling | spend polling | pause polling =>
    exact absurd (Stage.isInside_of_polling polling) (ne_true_of_eq_false outside)

theorem Shown.react (shown : Shown l deeds signal.state)
    (before : Lived (fresh policy started) l deeds)
    (r : Reacts l now s l' effect) :
    Shown l' (deeds ++ [⟨now, l, s, l'⟩]) (effect.on later signal).state := by
  refine ⟨fun inside connected => ?_, fun outside connected d exit => ?_,
    fun gone unconnected => ?_⟩
  · cases r with
    | establish => rfl
    | observe _ _ quiet =>
      rw [Effect.on_quiet quiet]
      exact shown.inside inside connected
    | pause _ unconnected | retry _ unconnected =>
      exact absurd connected (ne_true_of_eq_false unconnected)
    | _ => cases inside
  · have connected : l.connected := r.connected_of_outside outside ▸ connected
    by_cases inside : l.stage.isInside
    · have leaves : Deed.leaves ⟨now, l, s, l'⟩ := by simp [Deed.leaves, inside, outside]
      rw [exit?_append, before.exit?_of_inside inside, Option.none_or, if_pos leaves] at exit
      cases exit
      exact r.leaves_connected inside outside connected (shown.inside inside connected)
    · have out := eq_false_of_ne_true inside
      obtain ⟨e, -, left, -⟩ := before.exit?_of_outside out
      rw [exit?_append, left, Option.some_or] at exit
      cases exit
      rw [r.state_of_outside out connected]
      exact shown.left out connected d left
  · cases r with
    | establish polling | observe polling => simp [polling] at gone
    | finish _ connected => exact absurd connected (ne_true_of_eq_false unconnected)
    | settle => exact Signal.fail_state ..
    | _ => cases gone

end Loop

/-- A network thread, the signal, and what happened so far. -/
structure Course where
  loop : Loop
  signal : Signal
  /-- What the thread did, the latest last. -/
  deeds : List Loop.Deed
  /-- When it polled so that a session it was asked to close could close. -/
  drained : List Instant

namespace Course

def start (policy : RetryPolicy) (started : Instant) (signal : Signal) : Course :=
  ⟨.fresh policy started, signal, [], []⟩

inductive Move where
  | react (now : Instant) (stimulus : Stimulus)
  /-- A poll while the session closes, whatever it gives. -/
  | drain (now : Instant)
  /-- A call that waits comes, wakes up or gives up. -/
  | wait (now : Instant) (e : Signal.Event)

def step? (c : Course) : Move → Option Course
  | .react now s => (c.loop.react? now s).map fun (loop, effect) =>
    { c with loop, signal := effect.on now c.signal, deeds := c.deeds ++ [⟨now, c.loop, s, loop⟩] }
  | .drain now =>
    let ends? := (Loop.exit? c.deeds).bind (·.now.after? disconnectGrace)
    if c.loop.stage = .draining ∧ ends?.all (now ≤ ·) then
      some { c with drained := c.drained ++ [now] }
    else none
  | .wait now e =>
    if e.isWait ∧ c.signal.outcome.isFailed = false then
      (c.signal.step? now e).map fun (signal, _) => { c with signal }
    else none

def run? (moves : List Move) (c : Course) : Option Course := moves.foldlM step? c

variable {policy : RetryPolicy} {started : Instant} {signal : Signal} {c c' : Course}
  {moves : List Move}

/-- What holds at every moment. -/
structure Sound (policy : RetryPolicy) (started : Instant) (c : Course) : Prop where
  lived : Loop.Lived (.fresh policy started) c.loop c.deeds
  settled : Loop.Settled policy started c.loop c.deeds c.signal.outcome
  shown : Loop.Shown c.loop c.deeds c.signal.state
  drained : ∀ t ∈ c.drained, ∃ d ∈ c.deeds,
    d.isStop ∧ (d.now.after? disconnectGrace).all (t ≤ ·)

theorem Sound.start (pending : signal.outcome = .pending) :
    Sound policy started (start policy started signal) where
  lived := .begun
  settled := pending ▸ .begun
  shown := .begun
  drained := by simp [Course.start]

theorem Sound.step? {move : Move} (sound : Sound policy started c) (h : c.step? move = some c') :
    Sound policy started c' := by
  cases move with
  | react now s =>
    obtain ⟨⟨loop, effect⟩, reacted, rfl⟩ := Option.map_eq_some_iff.mp h
    have r := Loop.reacts_of_react? sound.lived.calm reacted
    refine ⟨sound.lived.reacted reacted, sound.settled.react sound.lived r,
      sound.shown.react sound.lived r, ?_⟩
    intro t polled
    obtain ⟨d, done, rest⟩ := sound.drained t polled
    exact ⟨d, List.mem_append_left _ done, rest⟩
  | drain now =>
    simp only [Course.step?] at h
    split at h
    · rename_i allowed
      cases h
      refine ⟨sound.lived, sound.settled, sound.shown, ?_⟩
      simp only [List.forall_mem_append, List.forall_mem_singleton]
      refine ⟨sound.drained, ?_⟩
      obtain ⟨d, done, exit, stop⟩ := sound.lived.stop_of_draining allowed.1
      have inTime := allowed.2
      rw [exit, Option.bind_some] at inTime
      exact ⟨d, done, stop, inTime⟩
    · cases h
  | wait now e =>
    simp only [Course.step?] at h
    split at h
    · rename_i allowed
      obtain ⟨⟨signal, answers⟩, waited, rfl⟩ := Option.map_eq_some_iff.mp h
      obtain ⟨w, -, turn⟩ := Signal.turn_of_step? allowed.1 waited
      obtain ⟨outcome, state⟩ := turn.same allowed.2
      exact ⟨sound.lived, outcome ▸ sound.settled, state ▸ sound.shown, sound.drained⟩
    · cases h

theorem Sound.polls (sound : Sound policy started c) :
    c.deeds.Pairwise fun d later => d.leaves → later.stimulus.isPoll = false := by
  refine sound.lived.order.imp_of_mem fun {d later} _ done ordered leaves => ?_
  obtain ⟨effect, r⟩ := sound.lived.each later done
  refine eq_false_of_ne_true fun poll => ?_
  exact absurd (Stage.isInside_of_polling (r.polling poll)) (ne_true_of_eq_false (ordered.1 leaves))

/-- The state of the session shows that it is lost. -/
theorem Sound.disconnected (sound : Sound policy started c) {d : Loop.Deed} (done : d ∈ c.deeds)
    (connected : d.before.connected) (leaves : d.leaves) (poll : d.stimulus.isPoll) :
    c.signal.state = .disconnected := by
  have outside : c.loop.stage.isInside = false :=
    eq_false_of_ne_true fun inside => by simp [sound.lived.inside_iff.mp inside d done] at leaves
  rw [sound.shown.left outside (sound.lived.connected_of_mem done connected) d
    (sound.lived.exit?_of_mem done leaves), Loop.Deed.isStop_of_isPoll poll]
  rfl

theorem Sound.session (sound : Sound policy started c) :
    c.deeds.Pairwise fun d later => d.stimulus.isSuccess →
      later.stimulus ≠ .deadline ∧ later.stimulus ≠ .rested ∧ later.after.stage.isPause = false ∧
      (later.stimulus.isError ∨ later.stimulus.isFarewell →
        later.after.stage = .leaving ∧ c.signal.state = .disconnected) := by
  refine sound.lived.order.imp_of_mem fun {d later} _ done ordered success => ?_
  have connected := ordered.2 success
  obtain ⟨effect, r⟩ := sound.lived.each later done
  obtain ⟨deadline, rested, pause, lost⟩ := r.in_session connected
  refine ⟨deadline, rested, pause, fun loss => ?_⟩
  obtain ⟨polling, leaving⟩ := lost loss
  have poll : later.stimulus.isPoll :=
    loss.elim Stimulus.isPoll_of_isError Stimulus.isPoll_of_isFarewell
  have leaves : later.leaves := by simp [Loop.Deed.leaves, polling, leaving, Stage.isInside]
  exact ⟨leaving, sound.disconnected done connected leaves poll⟩

theorem Sound.failure (sound : Sound policy started c) (gone : c.loop.stage = .gone)
    (unconnected : c.loop.connected = false) :
    ∃ fault, Loop.firstReason? policy started c.deeds = some fault ∧
      c.signal.outcome = .failed fault := by
  obtain ⟨fault, first, told⟩ := sound.settled.failed (by rw [gone]; rfl) unconnected
  exact ⟨fault, first, told.resolve_right fun ⟨leaving, _⟩ => by simp [gone] at leaving⟩

theorem Sound.success (sound : Sound policy started c) (gone : c.loop.stage = .gone) :
    c.signal.outcome = .established ↔ c.loop.connected := by
  refine ⟨fun established => ?_, sound.settled.established⟩
  by_contra unconnected
  obtain ⟨fault, -, failed⟩ := sound.failure gone (eq_false_of_ne_true unconnected)
  simp [failed] at established

theorem Sound.state (sound : Sound policy started c) (gone : c.loop.stage = .gone) :
    c.signal.state = if c.deeds.any (·.isStop) then .connected else .disconnected := by
  by_cases connected : c.loop.connected
  · have outside : c.loop.stage.isInside = false := by rw [gone]; rfl
    obtain ⟨d, -, exit, -⟩ := sound.lived.exit?_of_outside outside
    rw [sound.shown.left outside connected d exit, sound.lived.any_isStop exit]
  · have none : c.deeds.any (·.isStop) = false := by
      refine List.any_eq_false.mpr fun d done stop => connected ?_
      exact sound.lived.connected_of_mem done (Loop.Deed.connected_of_isStop stop).2
    rw [sound.shown.gone gone (eq_false_of_ne_true connected), none]
    rfl

/-- How a thread behaves that is the only one to connect. -/
structure Conduct (policy : RetryPolicy) (started : Instant) (c : Course) : Prop where
  /-- Once out of its loop, the thread does not poll in it again. -/
  polls : c.deeds.Pairwise fun d later => d.leaves → later.stimulus.isPoll = false
  /-- It polls outside only to close a session that it was asked to stop, and not for long. -/
  drains : ∀ t ∈ c.drained, ∃ d ∈ c.deeds,
    d.isStop ∧ (d.now.after? disconnectGrace).all (t ≤ ·)
  /-- In a session there are no deadlines and no pauses, and the first failure is the end. -/
  session : c.deeds.Pairwise fun d later => d.stimulus.isSuccess →
    later.stimulus ≠ .deadline ∧ later.stimulus ≠ .rested ∧ later.after.stage.isPause = false ∧
    (later.stimulus.isError ∨ later.stimulus.isFarewell →
      later.after.stage = .leaving ∧ c.signal.state = .disconnected)
  success : c.loop.stage = .gone →
    (c.signal.outcome = .established ↔ ∃ d ∈ c.deeds, d.stimulus.isSuccess)
  /-- A thread that did not connect reports the first reason to give up. -/
  failure : c.loop.stage = .gone → (∀ d ∈ c.deeds, d.stimulus.isSuccess = false) →
    ∃ fault, Loop.firstReason? policy started c.deeds = some fault ∧
      c.signal.outcome = .failed fault
  /-- The state is left as it was by a thread that was asked to stop in a session. -/
  state : c.loop.stage = .gone →
    c.signal.state = if c.deeds.any (·.isStop) then .connected else .disconnected

theorem conduct_of_run (pending : signal.outcome = .pending)
    (run : (start policy started signal).run? moves = some c) : Conduct policy started c := by
  have sound := foldlM_keeps Sound.step? (.start pending) run
  exact
    { polls := sound.polls
      drains := sound.drained
      session := sound.session
      success := fun gone => (sound.success gone).trans sound.lived.connected_iff
      failure := fun gone none => sound.failure gone <| eq_false_of_ne_true fun connected =>
        have ⟨d, done, success⟩ := sound.lived.connected_iff.mp connected
        absurd success (ne_true_of_eq_false (none d done))
      state := sound.state }

/-- A thread that connects at the second attempt and is asked to stop. -/
def secondAttempt : List Move :=
  [.react .origin (.polled (.error (.io "refused"))), .wait .origin (.arrive ⟨0, none, .usual⟩),
    .react ⟨2000000000, by decide⟩ .rested,
    .react ⟨2000000000, by decide⟩ (.polled (.ok (.incoming (.connAck false .success)))),
    .wait ⟨2000000000, by decide⟩ (.resume 0),
    .react ⟨3000000000, by decide⟩ .shutdown, .drain ⟨3000000000, by decide⟩,
    .react ⟨3000000000, by decide⟩ .drained, .react ⟨3000000000, by decide⟩ .proceed]

theorem conduct_of_run_secondAttempt :
    ∃ c, (start .usual .origin .fresh).run? secondAttempt = some c ∧
      c.loop.stage = .gone ∧ c.drained = [⟨3000000000, by decide⟩] ∧ Conduct .usual .origin c :=
  ⟨_, rfl, rfl, rfl, @conduct_of_run .usual .origin .fresh _ secondAttempt rfl rfl⟩

end Course

end Courier
