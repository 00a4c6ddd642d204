import Courier.Broker
import Courier.Session.Remark

/-!
# A client and its network thread

A client: the manager of its session, its subscriptions, and the network thread at work between
them. The thread advances in turns; a call that waits lets it have as many as it takes, and when
neither can go on the clock moves to the next instant that either waits for.
-/

namespace Courier

structure Client where
  manager : Manager
  registry : Registry
  /-- What the callbacks saw, the latest last. -/
  seen : List Sight
  /-- What was said, the latest first. -/
  log : List LogLine
  /-- The work that the client is set up in. -/
  setup : Option LogSpan
  /-- Whether setting it up is over. -/
  isReady : Bool

/-- How long a closing session may take to send what is queued. -/
def disconnectGrace : Span := Span.ofMillis 500

namespace NetworkThread

/-- What a poll of the transport gives, if it gives something now. A session whose transport fails
is over for the broker too. -/
def poll? (hello : ConnectOptions) (t : NetworkThread) (link : Link) (n : Network) :
    Option (Polled × NetworkThread × Link × Network) :=
  match t.session with
  | none =>
    match n.attempt hello with
    | (.ok session, n) =>
      some (.ok (.incoming (.connAck false .success)), { t with session := some session }, link, n)
    | (.error e, n) => some (.error e, t, link, n)
  | some session =>
    let broken (e : TransportError) (n : Network) : Polled × NetworkThread × Link × Network :=
      (.error e, { t with session := none }, link, n.hangUp session)
    match link.next? t.transport with
    | some (request, link, transport) =>
      some (.ok .outgoing, { t with transport }, link, n.receive session request)
    | none =>
      match n.nextPacket? session with
      | some (.subAck packetId verdicts, n) =>
        match verdicts.findSome? fun | .refused name => some name | .granted _ => none with
        | some name => some (broken (.subscriptionFailed name) n)
        | none => some (.ok (.incoming (.subAck packetId verdicts)), t, link, n)
      | some (p, n) => some (.ok (.incoming p), t, link, n)
      | none =>
        if n.isOpen session then none else some (broken (.io "connection closed by peer") n)

end NetworkThread

namespace Client

/-- A client with no subscriptions and no session. -/
def ofManager (m : Manager) (setup : Option LogSpan) : Client := ⟨m, .empty, [], [], setup, false⟩

def withLink (c : Client) (link : Link) : Client := { c with manager.link := link }

def withThread (c : Client) (t : NetworkThread) : Client := { c with manager.thread := some t }

/-- The work under way where one side says something. -/
def work (c : Client) : Side → Option LogSpan
  | .caller => if c.isReady then none else c.setup
  | .network => some c.manager.threadSpan

def say (side : Side) (c : Client) (lines : List LogLine) : Client :=
  let lines := (c.work side).elim lines fun span => lines.map (·.inside span)
  { c with log := lines.reverse ++ c.log }

/-- The answers of the link to requests on one side that do not have to wait. -/
def answers (side : Side) : LinkAnswers Link := fun request link =>
  (link.request? side request).getD (.error (Link.refusal request), link)

/-- Adds or removes a subscription. -/
def change (side : Side) (c : Client) (change : Change) : Except Fault Unit × Client :=
  let (result, registry, link) := change.run (answers side) c.registry c.manager.link
  (result, ({ c with registry }.withLink link).say side (change.remarks result))

/-- Publishes on a topic. -/
def publish (side : Side) (c : Client) (topic : String) (payload : List UInt8)
    (guarantee : Guarantee) : Except Fault Unit × Client :=
  match checkTopic topic with
  | .error fault => (.error fault, c)
  | .ok () =>
    let (result, link) := answers side (.publish topic payload guarantee false) c.manager.link
    let c := c.withLink link
    match result with
    | .ok () =>
      let line := LogLine.say .debug .communicator "Message handed to client library"
        ["topic", "bytes"]
      (.ok (), c.say side [line])
    | .error fault => (.error fault, c)

/-- Does what a callback asks for, on the network thread that runs it, and tells it the result. -/
def carryOut (c : Client) (order : Order) : Client :=
  let (result, c) := match order with
    | .publish topic payload guarantee => c.publish .network topic payload guarantee
    | .add filter guarantee => c.change .network (.add filter guarantee (.queue .empty))
    | .remove filter => c.change .network (.remove filter)
  { c with seen := c.seen ++ [.answered order result] }

/-- Hands an inbound message to its subscription, if there is one. -/
def dispatch (c : Client) (m : Message) : Client :=
  match c.registry.target? m.topic with
  | none =>
    c.say .network
      [.say .warn .registry "No subscription matches inbound message, dropped" ["topic"]]
  | some id =>
    let (registry, orders) := c.registry.deliver id m
    let c := { c with registry }.say .network
      [.say .debug .registry "Dispatching message" ["topic", "filter", "bytes"]]
    match registry.made[id]? with
    | some ⟨filter, .callback _⟩ =>
      orders.foldl carryOut { c with seen := c.seen ++ [.received filter m] }
    | _ => c.say .network [.say .trace .mailbox "Queued message" ["filter", "pending"]]

/-- Does to what is shared with calls what a reaction of the thread asks for. -/
def apply (c : Client) (now : Instant) : Effect → Client
  | .none => c
  | .signal e =>
    let c := c.say .network (c.manager.signal.remarks e)
    match c.manager.signal.step? now e with
    | some (signal, _) => { c with manager.signal := signal }
    | none => c
  | .dispatch m => c.dispatch m

/-- The reaction of a thread to a stimulus. -/
def react? (c : Client) (n : Network) (t : NetworkThread) (s : Stimulus) :
    Option (Client × Network) := do
  let (loop, effect) ← t.loop.react? n.now s
  let c := (c.withThread { t with loop }).say .network (t.loop.remarks n.now s)
  return (c.apply n.now effect, n)

/-- One turn of the network thread, if there is something for it to do now. -/
def turn? (c : Client) (n : Network) : Option (Client × Network) := do
  let t ← c.manager.thread
  let stopping := decide (t.heard < c.manager.stops)
  match t.loop.stage with
  | .polling =>
    let (link, transport) :=
      if t.loop.connected then c.manager.link.release t.transport
      else (c.manager.link, t.transport)
    let t := { t with transport }
    let c := c.withLink link
    match t.loop.urgent? n.now stopping with
    | some s => c.react? n t s
    | none =>
      let (p, t, link, n) ← t.poll? c.manager.options link n
      (c.withLink link).react? n t (.polled p)
  | .pausing _ => c.react? n t ((t.loop.urgent? n.now stopping).getD .rested)
  | .draining =>
    match t.poll? c.manager.options c.manager.link n with
    | some (.ok _, t, link, n) => return ((c.withLink link).withThread t, n)
    | some (.error _, t, link, n) => (c.withLink link).react? n t .drained
    | none =>
      let line := LogLine.say .debug .client "Disconnect did not complete within grace period" []
      (c.say .network [line]).react? (n.pass disconnectGrace) t .drained
  | .leaving =>
    let (c, n) ← c.react? n t .proceed
    let n := t.session.elim n n.hangUp
    let farewell := LogLine.ending c.manager.threadSpan
    let c := { c with log := c.setup.elim farewell farewell.inside :: c.log }
    return (c.withLink c.manager.link.close, n)
  | .gone => none

/-- Lets the network thread have turns until it waits; `none` if it never does within so many. -/
def settle? : Nat → Client → Network → Option (Client × Network)
  | 0, _, _ => none
  | turns + 1, c, n =>
    match c.turn? n with
    | some (c, n) => settle? turns c n
    | none => some (c, n)

/-- The instants that the thread waits for. -/
def alarms (c : Client) : List Instant :=
  match c.manager.thread with
  | none => []
  | some t =>
    match t.loop.stage with
    | .polling => t.loop.deadline?.toList
    | .pausing wake => wake.toList ++ t.loop.deadline?.toList
    | _ => []

/-- The instants that a call waits for. -/
def callAlarms : Manager.Call → List Instant
  | .asleep deadline => deadline.toList
  | _ => []

/-- The first of some instants that is still to come. -/
def nextAlarm? (now : Instant) (alarms : List Instant) : Option Instant :=
  alarms.foldl (fun best t =>
    if t ≤ now then best
    else match best with
      | some b => if b ≤ t then best else some t
      | none => some t) none

/-- The next step of a call, unless it has to wait. -/
def step? (spawned : Except String Unit) (now : Instant) (c : Client) (call : Manager.Call) :
    Option (Manager.Call × Client) :=
  (c.manager.step? spawned now 0 call).map fun (next, manager) =>
    (next, { c with manager }.say .caller (c.manager.remarks spawned call))

/-- What goes on while a call waits: a turn of the thread, else the passing of time. -/
def idle? (c : Client) (n : Network) (call : Manager.Call) : Option (Client × Network) :=
  match c.turn? n with
  | some next => some next
  | none => (nextAlarm? n.now (callAlarms call ++ c.alarms)).map fun now => (c, { n with now })

/-- A call from its first step to its result; `none` if it does not return within so many steps of
the call, the thread and the clock. -/
def call? (spawned : Except String Unit) :
    Nat → Manager.Call → Client → Network → Option (Except Fault Unit × Client × Network)
  | _, .returned result, c, n => some (result, c, n)
  | 0, _, _, _ => none
  | steps + 1, call, c, n =>
    match c.step? spawned n.now call with
    | some (next, c) => call? spawned steps next c n
    | none =>
      match c.idle? n call with
      | some (c, n) => call? spawned steps call c n
      | none => none

/-- A request made directly on the link; `none` if it has to wait. -/
def request? (c : Client) (request : Request) : Option (Except Fault Unit × Client) :=
  (c.manager.request? request).map fun (result, manager) => (result, { c with manager })

/-- The next message of the subscription under a filter; `none` if the call would wait for ever. -/
def receive? (c : Client) (filter : String) (now : Instant) (timeout : Option Span) :
    Option (Except Fault Message × Client) :=
  (c.registry.receive? filter now timeout).map fun (result, registry) =>
    (result, { c with registry })

end Client

end Courier
