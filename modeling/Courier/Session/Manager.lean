import Courier.Session.Link
import Courier.Session.Loop

/-!
# Calls that start and stop a session

The manager of a session: it starts the network thread at most once and stops it. A call runs in
steps, and the network thread and other calls may run between any two of them.
-/

namespace Courier

/-- The network thread with its end of the link. -/
structure NetworkThread where
  loop : Loop
  transport : Transport
  /-- How often a stop had been requested before the thread began to listen for it. -/
  heard : Nat
  /-- Its session at the broker. -/
  session : Option Nat

structure Manager where
  options : ConnectOptions
  policy : RetryPolicy
  link : Link
  signal : Signal
  /-- The sending side, until a thread takes it. -/
  transport : Option Transport
  /-- How often a stop has been requested. -/
  stops : Nat
  thread : Option NetworkThread
  /-- Whether the thread is there to be waited for. -/
  joinable : Bool

namespace Manager

/-- A manager for the settings. Nothing touches the network yet. -/
def create (fresh : String) (c : Config) (env : Environment) : Except Fault Manager :=
  (connectOptions (resolveClientId fresh c.client.id) c env).map fun options =>
    { options, policy := .ofConfig c, link := .fresh, signal := .fresh,
      transport := some .fresh, stops := 0, thread := none, joinable := false }

def clientId (m : Manager) : String := m.options.clientId

def state (m : Manager) : SessionState := m.signal.state

/-- A link request of a call; `none` if it has to wait. -/
def request? (m : Manager) (request : Request) : Option (Except Fault Unit × Manager) :=
  (m.link.request? .caller request).map fun (result, link) => (result, { m with link })

/-- How far a call has come. -/
inductive Call where
  | connect
  | announce (t : Transport) (deadline : Option Instant)
  | listen (t : Transport) (deadline : Option Instant)
  | spawn (t : Transport) (deadline : Option Instant) (heard : Nat)
  | keep (deadline : Option Instant)
  | await (deadline : Option Instant)
  | asleep (deadline : Option Instant)
  | abandon (fault : Fault)
  | disconnect
  | bye
  | stop (result : Except Fault Unit)
  | claim (result : Except Fault Unit)
  | join (result : Except Fault Unit)
  | reset (result : Except Fault Unit)
  | returned (result : Except Fault Unit)

def settleWait (m : Manager) (asleep : Call) : Signal × List Signal.Answer → Call × Manager
  | (signal, answers) =>
    let m := { m with signal }
    match answers with
    | [] => (asleep, m)
    | ⟨_, .ok ()⟩ :: _ => (.returned (.ok ()), m)
    | ⟨_, .error fault⟩ :: _ => (.abandon fault, m)

/-- The next step of a call, unless it has to wait. `spawned` says whether a thread can be had. -/
def step? (spawned : Except String Unit) (now : Instant) (id : Nat) (m : Manager) :
    Call → Option (Call × Manager)
  | .connect =>
    match m.transport with
    | none => some (.returned (.error (.connectFailed "connection manager already started")), m)
    | some t => some (.announce t (m.policy.deadline? now), { m with transport := none })
  | .announce t deadline =>
    some (.listen t deadline, { m with signal.state := .connecting })
  | .listen t deadline => some (.spawn t deadline m.stops, m)
  | .spawn t deadline heard =>
    match spawned with
    | .ok () =>
      some (.keep deadline,
        { m with thread := some ⟨.fresh m.policy now, t, heard, none⟩ })
    | .error cause =>
      some (.returned (.error (.connectFailed s!"failed to start network thread: {cause}")),
        { m with signal := m.signal.fail (.connectFailed cause) })
  | .keep deadline => some (.await deadline, { m with joinable := true })
  | .await deadline =>
    some (m.settleWait (.asleep deadline) (m.signal.arrive ⟨id, deadline, m.policy⟩))
  | .asleep deadline =>
    match m.signal.step? now (.resume id) with
    | some woken => some (m.settleWait (.asleep deadline) woken)
    | none => (m.signal.step? now (.expire id)).map (m.settleWait (.asleep deadline))
  | .abandon fault =>
    some (.stop (.error fault),
      { m with signal := m.signal.fail (.connectFailed "connect abandoned by caller") })
  | .disconnect => some (if m.signal.state = .connected then .bye else .stop (.ok ()), m)
  | .bye =>
    match m.request? .disconnect with
    | some (_, m) => some (.stop (.ok ()), m)
    | none => some (.stop (.ok ()), m)
  | .stop result => some (.claim result, { m with stops := m.stops + 1 })
  | .claim result =>
    some (if m.joinable then .join result else .reset result, { m with joinable := false })
  | .join result =>
    if m.thread.all (·.loop.stage = .gone) then some (.reset result, m) else none
  | .reset result => some (.returned result, { m with signal.state := .disconnected })
  | .returned _ => none

end Manager

end Courier
