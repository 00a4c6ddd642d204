import Courier.Fault
import Courier.Message

/-!
# Channel and parked requests

The way of requests from a client to its network thread. Calls put them into a channel of bounded
length, which the network thread empties. The network thread itself must not wait for room there:
what callbacks ask for is parked, and moved one at a time to the front of what is sent next.
-/

namespace Courier

/-- The thread that makes a request. -/
inductive Side where
  | caller
  | network
  deriving DecidableEq, Repr

structure Link where
  capacity : Nat
  /-- What the channel holds, the oldest first. -/
  queued : List Request
  /-- Whether the network thread, or what will become it, still holds the other end. -/
  isOpen : Bool
  parked : List Request
  deriving DecidableEq

/-- The sending side of the network thread: what goes out before anything in the channel, and
whether a packet waits for its number to be free. -/
structure Transport where
  pending : List Request
  collision : Bool
  deriving DecidableEq

def Transport.fresh : Transport := ⟨[], false⟩

namespace Link

/-- The length of the channel of a session. -/
def usualCapacity : Nat := 64

def withCapacity (n : Nat) : Link := ⟨n, [], true, []⟩

def fresh : Link := withCapacity usualCapacity

/-- What a request is refused with that does not get into the channel. -/
def refusal : Request → Fault :=
  let cause := "Failed to send mqtt requests to eventloop"
  fun
  | .subscribe filter _ => .subscribeFailed filter cause
  | .unsubscribe filter => .subscribeFailed filter cause
  | .publish topic .. => .publishFailed topic cause
  | .disconnect => .connectFailed s!"disconnect request failed: {cause}"

def hasWildcard (topic : String) : Bool := topic.toList.any fun c => c = '+' || c = '#'

def enqueue (l : Link) (request : Request) : Except Fault Unit × Link :=
  (.ok (), { l with queued := l.queued ++ [request] })

/-- A request that a call makes; `none` if it has to wait for room in the channel. A request to
disconnect does not wait. -/
def send? (l : Link) (request : Request) : Option (Except Fault Unit × Link) :=
  let refused := some (.error (refusal request), l)
  let room := decide (l.queued.length < l.capacity)
  match request with
  | .publish topic .. =>
    if hasWildcard topic || !l.isOpen then refused
    else if room then some (l.enqueue request) else none
  | .disconnect => if l.isOpen && room then some (l.enqueue request) else refused
  | _ =>
    if !l.isOpen then refused
    else if room then some (l.enqueue request) else none

def park (l : Link) (request : Request) : Except Fault Unit × Link :=
  (.ok (), { l with parked := l.parked ++ [request] })

/-- A request made on one of the two sides; `none` if the call has to wait. -/
def request? (side : Side) (request : Request) (l : Link) : Option (Except Fault Unit × Link) :=
  match side, request with
  | .network, .publish topic .. =>
    match checkTopic topic with
    | .error fault => some (.error fault, l)
    | .ok () => some (l.park request)
  | .network, .subscribe .. => some (l.park request)
  | .network, .unsubscribe _ => some (l.park request)
  | _, _ => l.send? request

/-- Moves the oldest parked request to the sending side, if nothing is ahead of it there. -/
def release (l : Link) (t : Transport) : Link × Transport :=
  if t.pending = [] ∧ t.collision = false then
    match l.parked with
    | request :: rest => ({ l with parked := rest }, { t with pending := [request] })
    | [] => (l, t)
  else (l, t)

/-- The next request to go out. -/
def next? (l : Link) (t : Transport) : Option (Request × Link × Transport) :=
  match t.pending, l.queued with
  | request :: rest, _ => some (request, l, { t with pending := rest })
  | [], request :: rest => some (request, { l with queued := rest }, t)
  | [], [] => none

/-- Takes out all that the channel holds, unless its other end is gone. -/
def drain? (l : Link) : Option (List Request × Link) :=
  if l.isOpen then some (l.queued, { l with queued := [] }) else none

/-- Drops the other end with all that the channel holds. -/
def close (l : Link) : Link := { l with queued := [], isOpen := false }

end Link

end Courier
