import Courier.Config
import Courier.Packet

/-!
# A broker held in memory

A broker answers attempts to connect as its script says, and then passes each
published message once to every session with a filter that matches.

Packets have no bytes here and no acknowledgements of their own: what travels is the request
itself. Retained messages, wills and quality downgrades are not modelled.
-/

namespace Courier

/-- What the broker does with an attempt to connect. -/
inductive Reply where
  | accept
  /-- The connection is closed without an answer. -/
  | close
  /-- The answer is a packet that has no place there. -/
  | garbage
  | refuse (code : UInt8)
  deriving DecidableEq, Repr

/-- The broker's side of an accepted session. -/
structure Peer where
  filters : List String
  isOpen : Bool
  /-- Packets on their way to the client, the oldest first. -/
  outbox : List Packet
  deriving DecidableEq

/-- A packet that the broker received in a session. -/
structure Received where
  session : Nat
  request : Request
  deriving DecidableEq, Repr

structure Broker where
  port : UInt16
  /-- The replies to the next attempts; after the last, attempts are accepted. -/
  script : List Reply
  /-- Filters that are not granted. -/
  rejected : List String
  /-- What the broker publishes when it is first asked for a subscription. -/
  greeting : List (List UInt8 × List UInt8)
  peers : List Peer
  log : List Received
  connects : List ConnectOptions

namespace Broker

/-- A broker that accepts everyone and everything. -/
def atPort (port : UInt16) : Broker := ⟨port, [], [], [], [], [], []⟩

/-- The names of the machine that the broker runs on. -/
def hosts : List String := ["127.0.0.1", "localhost"]

/-- Whether an attempt to connect comes to this broker. -/
def isMeant (b : Broker) (hello : ConnectOptions) : Bool :=
  hello.port = b.port && hello.host ∈ hosts

def updatePeer (b : Broker) (session : Nat) (change : Peer → Peer) : Broker :=
  { b with peers := b.peers.modify session change }

/-- Sends a packet to a client whose session is open. -/
def send (b : Broker) (session : Nat) (p : Packet) : Broker :=
  b.updatePeer session fun peer =>
    if peer.isOpen then { peer with outbox := peer.outbox ++ [p] } else peer

/-- Passes a message to every session with a filter that matches. -/
def forward (b : Broker) (topic payload : List UInt8) : Broker :=
  { b with peers := b.peers.map fun peer =>
      if peer.isOpen && peer.filters.any (filterMatches · (Utf8.lossy topic)) then
        { peer with outbox := peer.outbox ++ [.publish topic payload false] }
      else peer }

/-- The number of the session, or why there is none. -/
def attempt (b : Broker) (hello : ConnectOptions) : Except TransportError Nat × Broker :=
  let reply := b.script.headD .accept
  let b := { b with script := b.script.tail }
  let heard := { b with connects := b.connects ++ [hello] }
  let newcomer : Peer := ⟨[], true, []⟩
  let accepted := (.ok b.peers.length, { heard with peers := b.peers ++ [newcomer] })
  match reply with
  | .accept => accepted
  | .close => (.error (.io "connection closed by peer"), b)
  | .garbage => (.error .noConnAck, heard)
  | .refuse code =>
    match ConnectCode.ofByte? code.toNat with
    | some .success => accepted
    | some code => (.error (.refused code), heard)
    | none => (.error .invalidState, heard)

/-- Takes a request of a client whose session is open. -/
def receive (b : Broker) (session : Nat) (request : Request) : Broker :=
  if (b.peers[session]?).any (·.isOpen) then
    let entry : Received := ⟨session, request⟩
    let b := { b with log := b.log ++ [entry] }
    match request with
    | .subscribe filter guarantee =>
      let b :=
        if filter ∈ b.rejected then b.send session (.subAck 0 [.refused "Unspecified"])
        else
          (b.updatePeer session fun peer => { peer with filters := peer.filters ++ [filter] }).send
            session (.subAck 0 [.granted guarantee])
      let greeting := b.greeting
      greeting.foldl (fun b (topic, payload) => b.forward topic payload) { b with greeting := [] }
    | .unsubscribe filter =>
      let b := b.updatePeer session fun peer =>
        { peer with filters := peer.filters.filter (· ≠ filter) }
      b.send session (.unsubAck 0)
    | .publish topic payload _ _ => b.forward (Utf8.encode topic) payload
    | .disconnect => b.updatePeer session fun peer => { peer with isOpen := false }
  else b

/-- Closes a session, after a packet that says why if there is a reason. -/
def lose (b : Broker) (session : Nat) (reason : Option DisconnectReason) : Broker :=
  let b := match reason with
    | some reason => b.send session (.disconnect reason)
    | none => b
  b.updatePeer session fun peer => { peer with isOpen := false }

/-- The next packet for a client, with what is left of the broker. -/
def nextPacket? (b : Broker) (session : Nat) : Option (Packet × Broker) :=
  match b.peers[session]? with
  | some ⟨_, _, p :: _⟩ =>
    some (p, b.updatePeer session fun peer => { peer with outbox := peer.outbox.tail })
  | _ => none

def isOpen (b : Broker) (session : Nat) : Bool := (b.peers[session]?).any (·.isOpen)

end Broker

/-- What lies beyond a client: the time, and a broker if one can be reached. -/
structure Network where
  now : Instant
  broker : Option Broker

namespace Network

/-- One attempt to connect; where no broker is, it is turned down at once. -/
def attempt (n : Network) (hello : ConnectOptions) : Except TransportError Nat × Network :=
  match n.broker.filter (·.isMeant hello) with
  | none => (.error (.io "Connection refused (os error 111)"), n)
  | some b =>
    let (result, b) := b.attempt hello
    (result, { n with broker := some b })

def receive (n : Network) (session : Nat) (request : Request) : Network :=
  { n with broker := n.broker.map (·.receive session request) }

def nextPacket? (n : Network) (session : Nat) : Option (Packet × Network) := do
  let (p, b) ← (← n.broker).nextPacket? session
  return (p, { n with broker := some b })

def isOpen (n : Network) (session : Nat) : Bool := n.broker.any (·.isOpen session)

/-- Ends a session without a word. -/
def hangUp (n : Network) (session : Nat) : Network :=
  { n with broker := n.broker.map (·.lose session none) }

/-- Lets time pass, as far as the clock goes. -/
def pass (n : Network) (d : Span) : Network := { n with now := (n.now.after? d).getD n.now }

end Network

end Courier
