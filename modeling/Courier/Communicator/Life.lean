import Courier.Communicator

/-!
# The life of a communicator

The life of a communicator, from the settings it is asked for with to its end, in steps between
which others may run. It holds the engine from before it connects until its network thread is gone;
whatever goes wrong on the way, all that was taken is given back.
-/

namespace Courier

/-- What a communicator finds where it is opened. -/
structure Surroundings where
  env : Environment
  /-- What completes a generated name. -/
  fresh : String
  /-- Whether a runtime can be built. -/
  building : Except String Unit
  /-- Whether a thread can be had. -/
  spawning : Except String Unit

inductive Life where
  | begun (config : Config)
  | checked (config : Config)
  | held (config : Config) (handle : Handle)
  | connecting (c : Communicator) (call : Manager.Call)
  /-- There is no session, and what there is of it is put away. -/
  | abandoning (c : Communicator) (call : Manager.Call) (fault : Fault)
  | subscribing (c : Communicator)
  | ready (c : Communicator)
  | closing (c : Communicator) (call : Manager.Call) (fault : Option Fault)
  /-- The handle is given back, within the work that has not ended yet if there is any. -/
  | releasing (handle : Handle) (work : Option LogSpan) (fault : Option Fault)
  | ended (fault : Option Fault)

namespace Life

/-- The work of opening a communicator. -/
def opening (config : Config) : LogSpan :=
  ⟨.communicator, [("operation", .text "connect"), ("host", .text config.broker.host),
    ("port", .number config.broker.port.toNat)]⟩

/-- What is said about a handle acquired from an engine. -/
def acquisition (before : Engine) : List LogLine :=
  (if before.isRunning then [] else [.say .info .engine "Client library initialized" []])
    ++ [.say .debug .engine "Client library handle acquired" ["handles"]]

/-- What is said about a handle released to an engine. -/
def restitution (before : Engine) (work : Option LogSpan) : List LogLine :=
  let lines := LogLine.say .debug .engine "Client library handle released" ["handles"]
    :: if before.count = 1 then [.say .info .engine "Client library cleaned up" []] else []
  work.elim lines fun span => lines.map (·.inside span) ++ [.ending span]

/-- A communicator is set up. -/
def settle (c : Communicator) : Communicator :=
  let line := LogLine.say .info .communicator "Communicator ready"
    ["client_id", "subscribe_topic", "publish_topic"]
  let client := c.client.say .caller [line]
  { c with client := { client with
      log := .ending (opening c.config) :: client.log
      isReady := true } }

/-- A communicator's last words. -/
def farewell (c : Communicator) : List LogLine :=
  let line := LogLine.say .info .communicator "Communicator closed" ["client_id"]
  [(c.client.work .caller).elim line line.inside]

/-- The next step, with the engine after it and what is said about it. There is none while a call
waits, while the communicator is in use, and at the end. -/
def step? (s : Surroundings) (now : Instant) (e : Engine) :
    Life → Option (Life × Engine × List LogLine)
  | .begun config =>
    match config.fault? with
    | some fault => some (.ended (some (.config fault)), e, [])
    | none => some (.checked config, e, [])
  | .checked config =>
    match e.acquire s.building with
    | (.ok handle, engine) =>
      some (.held config handle, engine, acquisition e ++ [.beginning (opening config)])
    | (.error fault, engine) => some (.ended (some fault), engine, [])
  | .held config handle =>
    match Manager.create s.fresh config s.env with
    | .ok m => some (.connecting ⟨config, .ofManager m (opening config), handle⟩ .connect, e, [])
    | .error fault => some (.releasing handle none (some fault), e, [.ending (opening config)])
  | .connecting c (.returned (.ok ())) => some (.subscribing c, e, [])
  | .connecting c (.returned (.error fault)) => some (.abandoning c (.stop (.ok ())) fault, e, [])
  | .connecting c call =>
    (c.client.step? s.spawning now call).map fun (call, client) =>
      (.connecting { c with client } call, e, [])
  | .abandoning c (.returned _) fault =>
    some (.releasing c.handle none (some fault), e, [.ending (opening c.config)])
  | .abandoning c call fault =>
    (c.client.step? s.spawning now call).map fun (call, client) =>
      (.abandoning { c with client } call fault, e, [])
  | .subscribing c =>
    match c.add c.config.client.subscribeTopic .usual (.queue .empty) with
    | (.ok (), c) => some (.ready (settle c), e, [])
    | (.error fault, c) => some (.closing c .disconnect (some fault), e, [])
  | .ready _ => none
  | .closing c (.returned _) fault =>
    some (.releasing c.handle (c.client.work .caller) fault, e, farewell c)
  | .closing c call fault =>
    (c.client.step? s.spawning now call).map fun (call, client) =>
      (.closing { c with client } call fault, e, [])
  | .releasing _ work fault => some (.ended fault, e.release, restitution e work)
  | .ended _ => none

/-- A communicator in use is told to close. -/
def close : Life → Life
  | .ready c => .closing c .disconnect none
  | life => life

/-- What goes on while a call of this life waits. -/
def idle? (n : Network) : Life → Option (Life × Network)
  | .connecting c call =>
    (c.client.idle? n call).map fun (client, n) => (.connecting { c with client } call, n)
  | .abandoning c call fault =>
    (c.client.idle? n call).map fun (client, n) => (.abandoning { c with client } call fault, n)
  | .closing c call fault =>
    (c.client.idle? n call).map fun (client, n) => (.closing { c with client } call fault, n)
  | _ => none

/-- Takes out what the client has said, the latest first. -/
def takeLog : Life → List LogLine × Life
  | .connecting c call => (c.client.log, .connecting { c with client.log := [] } call)
  | .abandoning c call fault => (c.client.log, .abandoning { c with client.log := [] } call fault)
  | .subscribing c => (c.client.log, .subscribing { c with client.log := [] })
  | .ready c => (c.client.log, .ready { c with client.log := [] })
  | .closing c call fault => (c.client.log, .closing { c with client.log := [] } call fault)
  | life => ([], life)

/-- Runs a life until the communicator is in use or the life is over; `none` if that does not come
within so many steps. What is said meanwhile is put in front of what was said, the latest first. -/
def run? (s : Surroundings) :
    Nat → Life → Engine → Network → List LogLine → Option (Life × Engine × Network × List LogLine)
  | 0, _, _, _, _ => none
  | steps + 1, life, e, n, log =>
    let (said, life) := life.takeLog
    let log := said ++ log
    match life with
    | .ready c => some (.ready c, e, n, log)
    | .ended fault => some (.ended fault, e, n, log)
    | _ =>
      match life.step? s n.now e with
      | some (life, e, lines) => run? s steps life e n (lines.reverse ++ log)
      | none =>
        match life.idle? n with
        | some (life, n) => run? s steps life e n log
        | none => none

end Life

end Courier
