import Courier.Registry.Change

/-!
# A registry over a recording link

A registry over a link that records what it is asked, in place of a broker. The link can be told to
refuse, and to send what is published back into the registry; a callback may then publish, and so
cause further deliveries before it returns.
-/

namespace Courier

/-- A link that keeps the requests it accepts, the latest last. -/
structure Recorder where
  accepted : List Request
  refusing : Bool
  /-- Whether published messages come back. -/
  attached : Bool
  deriving DecidableEq

namespace Recorder

def fresh : Recorder := ⟨[], false, false⟩

/-- A request to disconnect is never refused. -/
def answer : LinkAnswers Recorder := fun request l =>
  let accept : Except Fault Unit × Recorder :=
    (.ok (), { l with accepted := l.accepted ++ [request] })
  match l.refusing, request with
  | true, .subscribe filter _ => (.error (.subscribeFailed filter "Mock subscribe failure"), l)
  | true, .unsubscribe filter => (.error (.subscribeFailed filter "Mock unsubscribe failure"), l)
  | true, .publish topic .. => (.error (.publishFailed topic "Mock publish failure"), l)
  | _, _ => accept

/-- The topics and payloads published. -/
def published (l : Recorder) : List (String × List UInt8) :=
  l.accepted.filterMap fun
    | .publish topic payload _ _ => some (topic, payload)
    | _ => none

end Recorder

structure Rehearsal where
  registry : Registry
  link : Recorder
  /-- What the callbacks saw, the latest last. -/
  seen : List Sight

namespace Rehearsal

def fresh : Rehearsal := ⟨.empty, .fresh, []⟩

/-- What remains to be done before a delivery is over. -/
inductive Task where
  | deliver (id : SubscriptionId) (m : Message)
  | carryOut (order : Order)
  | report (order : Order) (result : Except Fault Unit)

def see (s : Rehearsal) (sight : Sight) : Rehearsal := { s with seen := s.seen ++ [sight] }

def change (s : Rehearsal) (c : Change) : Except Fault Unit × Rehearsal :=
  let (result, registry, link) := c.run Recorder.answer s.registry s.link
  (result, { s with registry, link })

/-- Publishes on the link; what comes back is delivered next. -/
def publish (s : Rehearsal) (topic : String) (payload : List UInt8) (guarantee : Guarantee)
    (retain : Bool) : Except Fault Unit × Rehearsal × List Task :=
  let (result, link) := Recorder.answer (.publish topic payload guarantee retain) s.link
  let back := match result with
    | .ok () => if link.attached then s.registry.target? topic else none
    | .error _ => none
  (result, { s with link }, back.toList.map fun id => .deliver id ⟨topic, payload⟩)

/-- Does one task; the tasks that it gives rise to come before all others. -/
def step (s : Rehearsal) : Task → Rehearsal × List Task
  | .deliver id m =>
    let (registry, orders) := s.registry.deliver id m
    let next := { s with registry }
    match s.registry.made[id]? with
    | some ⟨filter, .callback _⟩ => (next.see (.received filter m), orders.map .carryOut)
    | _ => (next, [])
  | .carryOut (.publish topic payload guarantee) =>
    let (result, s, tasks) := s.publish topic payload guarantee false
    (s, tasks ++ [.report (.publish topic payload guarantee) result])
  | .carryOut (.add filter guarantee) =>
    let (result, s) := s.change (.add filter guarantee (.queue .empty))
    (s, [.report (.add filter guarantee) result])
  | .carryOut (.remove filter) =>
    let (result, s) := s.change (.remove filter)
    (s, [.report (.remove filter) result])
  | .report order result => (s.see (.answered order result), [])

/-- Does all tasks, if they come to an end within so many steps; callbacks that answer one another
never do. -/
def settle? : Nat → List Task → Rehearsal → Option Rehearsal
  | _, [], s => some s
  | 0, _ :: _, _ => none
  | n + 1, task :: tasks, s =>
    let (s, more) := s.step task
    settle? n (more ++ tasks) s

/-- Hands in a message from outside; the result says whether a subscription takes it. -/
def dispatch? (steps : Nat) (s : Rehearsal) (m : Message) : Option (Bool × Rehearsal) :=
  match s.registry.target? m.topic with
  | none => some (false, s)
  | some id => (settle? steps [.deliver id m] s).map fun s => (true, s)

/-- Publishes on the link and sees every delivery through that this causes. -/
def publishThrough? (steps : Nat) (s : Rehearsal) (topic : String) (payload : List UInt8)
    (guarantee : Guarantee) (retain : Bool) : Option (Except Fault Unit × Rehearsal) :=
  let (result, s, tasks) := s.publish topic payload guarantee retain
  (settle? steps tasks s).map fun s => (result, s)

end Rehearsal

end Courier
