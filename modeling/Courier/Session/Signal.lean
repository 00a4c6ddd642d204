import Courier.Session.Retry

/-!
# The outcome of connecting

The state of a session and the outcome of establishing it, shared between the network thread and
the calls that wait for the outcome. Each event happens under one lock. A failure is handed to one
call, after which the outcome is open again; success stays.
-/

namespace Courier

inductive SessionState where
  | disconnected
  | connecting
  | connected
  deriving DecidableEq, Repr

def SessionState.name : SessionState → String
  | .disconnected => "Disconnected"
  | .connecting => "Connecting"
  | .connected => "Connected"

inductive ConnectOutcome where
  | pending
  | established
  | failed (fault : Fault)
  deriving DecidableEq

/-- A call that waits for the outcome until its deadline, and then fails as its policy says. -/
structure OutcomeWaiter where
  id : Nat
  deadline : Option Instant
  policy : RetryPolicy
  deriving DecidableEq

structure Signal where
  state : SessionState
  outcome : ConnectOutcome
  asleep : List OutcomeWaiter
  /-- Sleepers that have been woken and have not run yet. -/
  woken : List OutcomeWaiter
  deriving DecidableEq

namespace Signal

def fresh : Signal := ⟨.disconnected, .pending, [], []⟩

inductive Event where
  | connecting
  /-- The network thread is gone. -/
  | disconnected
  /-- The broker has answered. -/
  | answered (success : Bool)
  | lost
  | fail (fault : Fault)
  | arrive (w : OutcomeWaiter)
  | resume (id : Nat)
  /-- A sleeper runs without having been woken. -/
  | stir (id : Nat)
  | expire (id : Nat)

structure Answer where
  id : Nat
  result : Except Fault Unit

def wakeAll (s : Signal) : Signal := { s with asleep := [], woken := s.woken ++ s.asleep }

/-- A call with the lock in hand takes the outcome or falls asleep. -/
def arrive (s : Signal) (w : OutcomeWaiter) : Signal × List Answer :=
  match s.outcome with
  | .established => (s, [⟨w.id, .ok ()⟩])
  | .failed fault => ({ s with outcome := .pending }, [⟨w.id, .error fault⟩])
  | .pending => ({ s with asleep := s.asleep ++ [w] }, [])

/-- A call past its deadline takes the outcome if there is one. -/
def giveUp (s : Signal) (w : OutcomeWaiter) : Signal × List Answer :=
  match s.outcome with
  | .pending => (s, [⟨w.id, .error w.policy.timeoutFault⟩])
  | _ => s.arrive w

def fail (s : Signal) (fault : Fault) : Signal :=
  let s := { s with state := .disconnected }
  match s.outcome with
  | .pending => { s with outcome := .failed fault }.wakeAll
  | _ => s

/-- The broker's answer; a refusal is left for the network thread to report. -/
def answered (s : Signal) (success : Bool) : Signal :=
  if success then
    let outcome := match s.outcome with
      | .pending => .established
      | other => other
    { s with state := .connected, outcome }.wakeAll
  else s

/-- The signal after an event and the calls it answers, if the event can happen at this time. -/
def step? (now : Instant) (s : Signal) : Event → Option (Signal × List Answer)
  | .connecting => some ({ s with state := .connecting }, [])
  | .disconnected => some ({ s with state := .disconnected }, [])
  | .answered success => some (s.answered success, [])
  | .lost => some ({ s with state := .disconnected }, [])
  | .fail fault => some (s.fail fault, [])
  | .arrive w => some (s.arrive w)
  | .resume id => do
    let w ← s.woken.find? (·.id = id)
    return { s with woken := s.woken.erase w }.arrive w
  | .stir id => do
    let w ← s.asleep.find? (·.id = id)
    return { s with asleep := s.asleep.erase w }.arrive w
  | .expire id => do
    let w ← s.asleep.find? (·.id = id)
    let deadline ← w.deadline
    if deadline ≤ now then return { s with asleep := s.asleep.erase w }.giveUp w else none

/-- The result of a call with nothing else going on; without a deadline it may wait for ever. -/
def wait? (s : Signal) (deadline : Option Instant) (policy : RetryPolicy) :
    Option (Except Fault Unit × Signal) :=
  match s.arrive ⟨0, deadline, policy⟩ with
  | (s, answer :: _) => some (answer.result, s)
  | (s, []) => do
    let deadline ← deadline
    let (s, answers) ← s.step? deadline (.expire 0)
    return (← answers.head?.map (·.result), s)

/-- The result of a call without a deadline during which an event happens. -/
def waitDuring? (s : Signal) (policy : RetryPolicy) (event : Event) :
    Option (Except Fault Unit × Signal) := do
  let (s, early) := s.arrive ⟨0, none, policy⟩
  let (s, _) ← s.step? .origin event
  match early with
  | answer :: _ => return (answer.result, s)
  | [] =>
    let (s, answers) ← s.step? .origin (.resume 0)
    return (← answers.head?.map (·.result), s)

end Signal

end Courier
