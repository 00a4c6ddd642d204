import Courier.Proofs.Session.Outcome
import Courier.Session.Manager

/-!
# What calls do, step by step

What the link does with a request, and everything that a step of a call to connect or to disconnect
can do, with what it takes.
-/

namespace Courier

/-- What a callback is told that makes a request. -/
def Request.verdict : Request → Except Fault Unit
  | .publish topic .. => checkTopic topic
  | _ => .ok ()

namespace Link

variable {l : Link} {request : Request} {answer : Except Fault Unit × Link}

/-- A request of a call joins the channel, or is refused and changes nothing. -/
theorem answer_of_send? (h : l.send? request = some answer) :
    answer = l.enqueue request ∨ answer = (.error (refusal request), l) := by
  unfold send? at h
  split at h <;> grind

/-- A request of the network thread itself is answered at once, and leaves the channel as it is. -/
theorem request?_network (l : Link) (other : request ≠ .disconnect) :
    l.request? .network request = some
      (match request.verdict with
        | .ok () => l.park request
        | .error fault => (.error fault, l)) := by
  cases request with
  | publish topic payload guarantee retain =>
    simp only [request?, Request.verdict]
    cases checkTopic topic <;> rfl
  | disconnect => exact absurd rfl other
  | _ => rfl

/-- What the network thread itself asks for is parked, or refused and changes nothing. -/
theorem answer_of_network (other : request ≠ .disconnect)
    (h : l.request? .network request = some answer) :
    answer = l.park request ∨ ∃ fault, answer = (.error fault, l) := by
  obtain rfl := Option.some.inj ((request?_network l other).symm.trans h)
  cases request.verdict with
  | ok => exact .inl rfl
  | error fault => exact .inr ⟨fault, rfl⟩

end Link

namespace Manager

/-- What a call is told whose transport another one has taken. -/
def startedFault : Fault := .connectFailed "connection manager already started"

def spawnFault (cause : String) : Fault :=
  .connectFailed s!"failed to start network thread: {cause}"

/-- What a call to connect leaves behind that gives up. -/
def abandonFault : Fault := .connectFailed "connect abandoned by caller"

/-- Nothing has been asked of the manager yet. -/
structure Unused (m : Manager) : Prop where
  signal : m.signal = .fresh
  transport : m.transport ≠ none
  thread : m.thread = none
  joinable : m.joinable = false

theorem create_unused {fresh : String} {c : Config} {env : Environment} {m : Manager}
    (h : create fresh c env = .ok m) : m.Unused := by
  unfold create at h
  cases options : connectOptions (resolveClientId fresh c.client.id) c env with
  | error fault =>
    rw [options] at h
    cases h
  | ok options' =>
    rw [options] at h
    cases h
    exact ⟨rfl, nofun, rfl, rfl⟩

namespace Call

/-- Whether a call to connect has not started the thread yet. -/
def isEarly : Call → Bool
  | .connect | .announce .. | .listen .. | .spawn .. => true
  | _ => false

/-- Whether a call has come to what stops the thread. -/
def isClosing : Call → Bool
  | .disconnect | .bye | .stop _ | .claim _ | .join _ | .reset _ | .returned _ => true
  | _ => false

def isOver : Call → Bool
  | .returned _ => true
  | _ => false

/-- Whether a call waits for the outcome until its deadline. -/
def Awaits (deadline : Option Instant) (c : Call) : Prop :=
  c = .await deadline ∨ c = .asleep deadline

end Call

/-- Everything that a step of a call can do. -/
inductive Steps (spawned : Except String Unit) (now : Instant) (id : Nat) (m : Manager) :
    Call → Call → Manager → Prop where
  | refuse (taken : m.transport = none) :
      Steps spawned now id m .connect (.returned (.error startedFault)) m
  | take {t : Transport} (found : m.transport = some t) :
      Steps spawned now id m .connect (.announce t (m.policy.deadline? now))
        { m with transport := none }
  | announce (t : Transport) (deadline : Option Instant) :
      Steps spawned now id m (.announce t deadline) (.listen t deadline)
        { m with signal.state := .connecting }
  | listen (t : Transport) (deadline : Option Instant) :
      Steps spawned now id m (.listen t deadline) (.spawn t deadline m.stops) m
  | spawn (t : Transport) (deadline : Option Instant) (heard : Nat) :
      Steps spawned now id m (.spawn t deadline heard) (.keep deadline)
        { m with thread := some ⟨.fresh m.policy now, t, heard, none⟩ }
  | spawnFailed (t : Transport) (deadline : Option Instant) (heard : Nat) (cause : String) :
      Steps spawned now id m (.spawn t deadline heard) (.returned (.error (spawnFault cause)))
        { m with signal := m.signal.fail (.connectFailed cause) }
  | keep (deadline : Option Instant) :
      Steps spawned now id m (.keep deadline) (.await deadline) { m with joinable := true }
  | sleep {c : Call} {deadline : Option Instant} {w : OutcomeWaiter} {signal : Signal}
      (awaits : c.Awaits deadline) (waiter : w = ⟨id, deadline, m.policy⟩ ∨ w ∈ m.signal.sleepers)
      (turn : m.signal.Turn now w signal []) :
      Steps spawned now id m c (.asleep deadline) { m with signal }
  | succeed {c : Call} {deadline : Option Instant} {w : OutcomeWaiter} {signal : Signal}
      (awaits : c.Awaits deadline) (waiter : w = ⟨id, deadline, m.policy⟩ ∨ w ∈ m.signal.sleepers)
      (turn : m.signal.Turn now w signal [⟨w.id, .ok ()⟩]) :
      Steps spawned now id m c (.returned (.ok ())) { m with signal }
  | giveUp {c : Call} {deadline : Option Instant} {w : OutcomeWaiter} {signal : Signal}
      {fault : Fault} (awaits : c.Awaits deadline)
      (waiter : w = ⟨id, deadline, m.policy⟩ ∨ w ∈ m.signal.sleepers)
      (turn : m.signal.Turn now w signal [⟨w.id, .error fault⟩]) :
      Steps spawned now id m c (.abandon fault) { m with signal }
  | abandon (fault : Fault) :
      Steps spawned now id m (.abandon fault) (.stop (.error fault))
        { m with signal := m.signal.fail abandonFault }
  | part (connected : m.signal.state = .connected) : Steps spawned now id m .disconnect .bye m
  | proceed (unconnected : m.signal.state ≠ .connected) :
      Steps spawned now id m .disconnect (.stop (.ok ())) m
  | bye (link : Link) : Steps spawned now id m .bye (.stop (.ok ())) { m with link }
  | stop (result : Except Fault Unit) :
      Steps spawned now id m (.stop result) (.claim result) { m with stops := m.stops + 1 }
  | claim {result : Except Fault Unit} (joinable : m.joinable) :
      Steps spawned now id m (.claim result) (.join result) { m with joinable := false }
  | skip {result : Except Fault Unit} (claimed : m.joinable = false) :
      Steps spawned now id m (.claim result) (.reset result) { m with joinable := false }
  | join {result : Except Fault Unit} (gone : ∀ t, m.thread = some t → t.loop.stage = .gone) :
      Steps spawned now id m (.join result) (.reset result) m
  | reset (result : Except Fault Unit) :
      Steps spawned now id m (.reset result) (.returned result)
        { m with signal.state := .disconnected }

variable {spawned : Except String Unit} {now : Instant} {id : Nat} {m m' : Manager} {c c' : Call}

/-- What a waiting call does with what its turn gives. -/
theorem steps_settleWait {deadline : Option Instant} {w : OutcomeWaiter} {signal : Signal}
    {answers : List Signal.Answer} (awaits : c.Awaits deadline)
    (waiter : w = ⟨id, deadline, m.policy⟩ ∨ w ∈ m.signal.sleepers)
    (turn : m.signal.Turn now w signal answers) :
    Steps spawned now id m c (m.settleWait (.asleep deadline) (signal, answers)).1
      (m.settleWait (.asleep deadline) (signal, answers)).2 := by
  cases turn with
  | sleep pending outcome state others =>
    exact .sleep awaits waiter (.sleep pending outcome state others)
  | success established outcome state =>
    exact .succeed awaits waiter (.success established outcome state)
  | failure failed state => exact .giveUp awaits waiter (.failure failed state)
  | expiry pending outcome state limit late =>
    exact .giveUp awaits waiter (.expiry pending outcome state limit late)

theorem steps_of_wait {e : Signal.Event} {deadline : Option Instant}
    {woken : Signal × List Signal.Answer} (awaits : c.Awaits deadline) (wait : e.isWait)
    (waiter : ∀ w, e = .arrive w → w = ⟨id, deadline, m.policy⟩)
    (h : m.signal.step? now e = some woken) :
    Steps spawned now id m c (m.settleWait (.asleep deadline) woken).1
      (m.settleWait (.asleep deadline) woken).2 := by
  obtain ⟨w, there, turn⟩ := Signal.turn_of_step? wait h
  exact steps_settleWait awaits (there.imp_left (waiter w)) turn

theorem steps_of_step? (h : m.step? spawned now id c = some (c', m')) :
    Steps spawned now id m c c' m' := by
  cases c with
  | connect =>
    simp only [step?] at h
    split at h
    · rename_i taken
      cases h
      exact .refuse taken
    · rename_i t found
      cases h
      exact .take found
  | announce t deadline =>
    cases h
    exact .announce t deadline
  | listen t deadline =>
    cases h
    exact .listen t deadline
  | spawn t deadline heard =>
    simp only [step?] at h
    split at h
    · cases h
      exact .spawn t deadline heard
    · rename_i cause
      cases h
      exact .spawnFailed t deadline heard cause
  | keep deadline =>
    cases h
    exact .keep deadline
  | await deadline =>
    obtain ⟨rfl, rfl⟩ := Prod.mk.inj (Option.some.inj h)
    exact steps_of_wait (.inl rfl) (e := .arrive ⟨id, deadline, m.policy⟩) rfl
      (fun w same => (Signal.Event.arrive.inj same).symm) rfl
  | asleep deadline =>
    simp only [step?] at h
    split at h
    · rename_i woken resumed
      obtain ⟨rfl, rfl⟩ := Prod.mk.inj (Option.some.inj h)
      exact steps_of_wait (.inr rfl) rfl (fun w same => by cases same) resumed
    · obtain ⟨woken, expired, settled⟩ := Option.map_eq_some_iff.mp h
      obtain ⟨rfl, rfl⟩ := Prod.mk.inj settled
      exact steps_of_wait (.inr rfl) rfl (fun w same => by cases same) expired
  | abandon fault =>
    cases h
    exact .abandon fault
  | disconnect =>
    obtain ⟨same, rfl⟩ := Prod.mk.inj (Option.some.inj h)
    split at same
    · rename_i connected
      exact same ▸ .part connected
    · rename_i unconnected
      exact same ▸ .proceed unconnected
  | bye =>
    simp only [step?] at h
    split at h
    · rename_i asked
      cases h
      obtain ⟨link, -, same⟩ := Option.map_eq_some_iff.mp asked
      cases same
      exact .bye _
    · cases h
      exact .bye m.link
  | stop result =>
    cases h
    exact .stop result
  | claim result =>
    obtain ⟨rfl, rfl⟩ := Prod.mk.inj (Option.some.inj h)
    split
    · rename_i joinable
      exact .claim joinable
    · rename_i claimed
      exact .skip (eq_false_of_ne_true claimed)
  | join result =>
    simp only [step?] at h
    split at h
    · rename_i gone
      cases h
      exact .join fun t there => by simpa [there] using gone
    · cases h
  | reset result =>
    cases h
    exact .reset result
  | returned result => cases h

namespace Steps

theorem policy (h : Steps spawned now id m c c' m') : m'.policy = m.policy := by
  cases h <;> rfl

theorem not_over (h : Steps spawned now id m c c' m') : c.isOver = false := by
  cases h with
  | sleep awaits | succeed awaits | giveUp awaits => rcases awaits with rfl | rfl <;> rfl
  | _ => rfl

theorem not_connect (h : Steps spawned now id m c c' m') : c' ≠ .connect := by
  rintro rfl
  cases h

theorem thread (h : Steps spawned now id m c c' m') (late : c.isEarly = false) :
    m'.thread = m.thread := by
  cases h with
  | spawn => cases late
  | _ => rfl

theorem started (h : Steps spawned now id m c c' m') : m'.thread = m.thread ∨
    ∃ t, m'.thread = some t ∧ t.loop = .fresh m.policy t.loop.started ∧ t.loop.started = now := by
  cases h with
  | spawn => exact .inr ⟨_, rfl, rfl, rfl⟩
  | _ => exact .inl rfl

theorem early (h : Steps spawned now id m c c' m') (early : c'.isEarly) :
    c.isEarly ∧ m'.thread = m.thread := by
  cases h with
  | take | announce | listen => exact ⟨rfl, rfl⟩
  | _ => cases early

/-- A call that has come to stop the thread goes on with that, and leaves no session standing. -/
theorem closing (h : Steps spawned now id m c c' m') (closing : c.isClosing) :
    c'.isClosing ∧ m'.thread = m.thread ∧ m'.transport = m.transport ∧
      (m'.signal.state = m.signal.state ∨ m'.signal.state = .disconnected) := by
  cases h with
  | sleep awaits | succeed awaits | giveUp awaits => rcases awaits with rfl | rfl <;> cases closing
  | part | proceed | bye | stop | claim | skip | join => exact ⟨rfl, rfl, rfl, .inl rfl⟩
  | reset => exact ⟨rfl, rfl, rfl, .inr rfl⟩
  | _ => cases closing

/-- Only a call that starts a thread depends on whether one can be had. -/
theorem anyhow (h : Steps spawned now id m c c' m') (late : c.isEarly = false)
    (other : Except String Unit) : Steps other now id m c c' m' := by
  cases h with
  | refuse | take | announce | listen | spawn | spawnFailed => cases late
  | keep deadline => exact .keep deadline
  | sleep awaits waiter turn => exact .sleep awaits waiter turn
  | succeed awaits waiter turn => exact .succeed awaits waiter turn
  | giveUp awaits waiter turn => exact .giveUp awaits waiter turn
  | abandon fault => exact .abandon fault
  | part connected => exact .part connected
  | proceed unconnected => exact .proceed unconnected
  | bye link => exact .bye link
  | stop result => exact .stop result
  | claim joinable => exact .claim joinable
  | skip claimed => exact .skip claimed
  | join gone => exact .join gone
  | reset result => exact .reset result

/-- A call that starts a thread goes on until there is one, or returns because there is none. -/
theorem absent (h : Steps spawned now id m c c' m') (early : c.isEarly)
    (untaken : c = .connect → m.transport ≠ none) (none : m'.thread = none) :
    c'.isEarly ∨ c'.isOver ∧ m'.signal.state = .disconnected := by
  cases h with
  | refuse taken => exact absurd taken (untaken rfl)
  | take | announce | listen => exact .inl rfl
  | spawn => cases none
  | spawnFailed => exact .inr ⟨rfl, Signal.fail_state ..⟩
  | sleep awaits | succeed awaits | giveUp awaits => rcases awaits with rfl | rfl <;> cases early
  | _ => cases early

end Steps

end Manager

end Courier
