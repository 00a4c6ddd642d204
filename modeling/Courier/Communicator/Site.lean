import Courier.Communicator.Life

/-!
# Communicators of one process

A process with its communicators, each under a name, the engine that they share, and the network
beyond them. Between two operations every network thread has as many turns as it can use, so that
all that was accepted has reached the broker and all that was delivered is with its subscription.
-/

namespace Courier

structure Site where
  surroundings : Surroundings
  network : Network
  engine : Engine
  communicators : List (String × Communicator)
  /-- What the callbacks saw, the latest last. -/
  seen : List Sight
  log : List LogLine

namespace Site

def fresh (surroundings : Surroundings) (network : Network) : Site :=
  ⟨surroundings, network, .idle, [], [], []⟩

/-- How many steps an operation may take before it counts as one that never ends. -/
def patience : Nat := 300000

def find? (s : Site) (name : String) : Option Communicator := s.communicators.lookup name

/-- Puts a communicator back, and what it saw and said with the rest. -/
def put (s : Site) (name : String) (c : Communicator) : Site :=
  let client := { c.client with seen := [], log := [] }
  { s with
    communicators := s.communicators.map fun (other, old) =>
      if other = name then (other, { c with client }) else (other, old)
    seen := s.seen ++ c.client.seen
    log := s.log ++ c.client.log.reverse }

/-- A turn of one of the network threads. -/
def turn? (s : Site) : Option Site :=
  s.communicators.findSome? fun (name, c) =>
    (c.client.turn? s.network).map fun (client, network) =>
      { s with network }.put name { c with client }

/-- Turns until every network thread waits. -/
def settleWithin? : Nat → Site → Option Site
  | 0, _ => none
  | turns + 1, s =>
    match s.turn? with
    | some s => settleWithin? turns s
    | none => some s

def settle? (s : Site) : Option Site := settleWithin? patience s

/-- Runs a life as far as it goes. -/
def live? (s : Site) (life : Life) : Option (Life × Site) :=
  (life.run? s.surroundings patience s.engine s.network []).map fun (life, engine, network, said) =>
    (life, { s with engine, network, log := s.log ++ said.reverse })

/-- Closes the communicator of a name. -/
def close? (s : Site) (name : String) : Option Site :=
  match s.find? name with
  | none => some s
  | some c => do
    let s := { s with communicators := s.communicators.filter (·.1 ≠ name) }
    let (_, s) ← s.live? (Life.ready c).close
    s.settle?

/-- Opens a communicator under a name, in place of the one that had it. -/
def open? (s : Site) (name : String) (config : Config) : Option (Except Fault Unit × Site) := do
  match ← s.live? (.begun config) with
  | (.ready c, s) =>
    let s ← s.close? name
    let s ← { s with communicators := s.communicators ++ [(name, c)] }.settle?
    return (.ok (), s)
  | (.ended (some fault), s) => return (.error fault, s)
  | _ => none

/-- An operation on an open communicator, with all that follows from it. -/
def act? {α : Type} (s : Site) (name : String)
    (operation : Communicator → Option (α × Communicator)) : Option (α × Site) := do
  let c ← s.find? name
  let (result, c) ← operation c
  return (result, ← (s.put name c).settle?)

/-- The session of an open communicator at the broker. -/
def session? (s : Site) (name : String) : Option Nat := do
  (← (← s.find? name).client.manager.thread).session

/-- What the broker does to the session of an open communicator, with all that follows. -/
def upset? (s : Site) (name : String) (change : Broker → Nat → Broker) : Option Site :=
  match s.session? name with
  | none => s.settle?
  | some session =>
    { s with network.broker := s.network.broker.map (change · session) }.settle?

/-- The broker sends a message to a client, whether or not it has subscribed to it. -/
def push? (s : Site) (name : String) (topic payload : List UInt8) (retain : Bool) : Option Site :=
  s.upset? name fun b session => b.send session (.publish topic payload retain)

/-- The broker closes a session, after a packet that says why if there is a reason. -/
def lose? (s : Site) (name : String) (reason : Option DisconnectReason) : Option Site :=
  s.upset? name fun b session => b.lose session reason

end Site

end Courier
