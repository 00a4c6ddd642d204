import Courier.Packet
import Courier.Session.Signal

/-!
# The network thread, reaction by reaction

The network thread of a session, one reaction at a time. Until the session is established it tries
again after each failure that may pass, within the time of its policy; afterwards the first error
ends it. Whichever way it ends, the outcome of connecting is settled.
-/

namespace Courier

/-- What a poll of the transport gives. -/
abbrev Polled := Except TransportError Event

inductive Stage where
  | polling
  /-- Between two attempts; the pause has an end if the clock can show it. -/
  | pausing (wake : Option Instant)
  /-- Asked to stop, and sending what is still queued. -/
  | draining
  /-- Out of the loop, with the outcome still to be settled if nothing else did. -/
  | leaving
  | gone
  deriving DecidableEq

structure Loop where
  policy : RetryPolicy
  started : Instant
  connected : Bool
  /-- Failed attempts so far. -/
  attempts : UInt32
  stage : Stage
  deriving DecidableEq

/-- What the thread reacts to. -/
inductive Stimulus where
  | shutdown
  | deadline
  | polled (p : Polled)
  /-- The pause between two attempts is over. -/
  | rested
  /-- Everything queued has been sent, or the time for it is up. -/
  | drained
  /-- The thread runs on. -/
  | proceed

/-- What a reaction does to what the thread shares with calls. -/
inductive Effect where
  | none
  | signal (event : Signal.Event)
  | dispatch (m : Message)

namespace Loop

def fresh (policy : RetryPolicy) (started : Instant) : Loop := ⟨policy, started, false, 0, .polling⟩

/-- The end of the time to connect in, once connected none. -/
def deadline? (l : Loop) : Option Instant :=
  if l.connected then none else l.policy.deadline? l.started

def isDue (deadline : Option Instant) (now : Instant) : Bool := deadline.any fun d => d ≤ now

def leave (l : Loop) : Loop := { l with stage := .leaving }

def timeOut (l : Loop) : Loop × Effect := (l.leave, .signal (.fail l.policy.timeoutFault))

/-- The reaction to an event that the transport reports. -/
def onEvent (l : Loop) (e : Event) : Loop × Effect :=
  match e.route with
  | .acknowledged success _ =>
    ({ l with connected := l.connected || success }, .signal (.answered success))
  | .message topic payload _ => (l, .dispatch ⟨topic, payload⟩)
  | .ended _ => (l.leave, .signal .lost)
  | .subscribed .. => (l, .none)
  | .routine _ => (l, .none)
  | .sent => (l, .none)

/-- The reaction to a failure of the transport. -/
def onError (l : Loop) (e : TransportError) (now : Instant) : Loop × Effect :=
  if l.connected then (l.leave, .signal .lost)
  else if e.isFatal then (l.leave, .signal (.fail (.connectFailed e.text)))
  else
    let l := { l with attempts := l.attempts + 1 }
    if l.policy.isExhausted l.started now then l.timeOut
    else ({ l with stage := .pausing (now.after? l.policy.interval) }, .none)

/-- Settles the outcome for a call that still waits for it. -/
def settle (l : Loop) : Loop × Effect :=
  let effect := if l.connected then .none else
    .signal (.fail (.connectFailed "network thread stopped before the session was established"))
  ({ l with stage := .gone }, effect)

/-- The reaction to a stimulus, if the thread waits for it. -/
def react? (l : Loop) (now : Instant) (s : Stimulus) : Option (Loop × Effect) :=
  match l.stage, s with
  | .polling, .shutdown =>
    some (if l.connected then { l with stage := .draining } else l.leave, .none)
  | .polling, .deadline => if isDue l.deadline? now then some l.timeOut else none
  | .polling, .polled (.ok e) => some (l.onEvent e)
  | .polling, .polled (.error e) => some (l.onError e now)
  | .pausing _, .shutdown => some (l.leave, .none)
  | .pausing _, .deadline => if isDue l.deadline? now then some l.timeOut else none
  | .pausing wake, .rested =>
    if isDue wake now then some ({ l with stage := .polling }, .none) else none
  | .draining, .drained => some (l.leave, .none)
  | .leaving, .proceed => some l.settle
  | _, _ => none

/-- What comes before a poll or the end of a pause: a request to stop, then the deadline. -/
def urgent? (l : Loop) (now : Instant) (shutdown : Bool) : Option Stimulus :=
  if shutdown then some .shutdown
  else if isDue l.deadline? now then some .deadline
  else none

end Loop

end Courier
