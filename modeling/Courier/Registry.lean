import Courier.Subscription

/-!
# The subscriptions of a communicator

The subscriptions of one communicator. A filter names at most one subscription at a time, and a
subscription outlives its name: who holds one can still take its messages after it is removed.
-/

namespace Courier

/-- The place of a subscription among all that were ever made. -/
abbrev SubscriptionId := Nat

structure Registry where
  table : List (String × SubscriptionId)
  made : List Subscription

namespace Registry

def empty : Registry := ⟨[], []⟩

def find? (r : Registry) (filter : String) : Option SubscriptionId := r.table.lookup filter

def contains (r : Registry) (filter : String) : Bool := (r.find? filter).isSome

/-- The filters in use, in alphabetical order. -/
def filters (r : Registry) : List String :=
  (r.table.map (·.1)).mergeSort fun a b => decide (a ≤ b)

/-- Makes a subscription and enters it under its filter, which must be free. -/
def enter (r : Registry) (filter : String) (delivery : Delivery) : Except Fault Registry :=
  if r.contains filter then .error (.alreadySubscribed filter)
  else .ok ⟨r.table ++ [(filter, r.made.length)], r.made ++ [⟨filter, delivery⟩]⟩

/-- Frees a filter. -/
def erase (r : Registry) (filter : String) : Registry :=
  { r with table := r.table.filter (·.1 ≠ filter) }

/-- Frees a filter that is in use and says which subscription it named. -/
def takeOut (r : Registry) (filter : String) : Except Fault (SubscriptionId × Registry) :=
  match r.find? filter with
  | some id => .ok (id, r.erase filter)
  | none => .error (.notSubscribed filter)

/-- Enters a subscription again under its filter, unless another has taken it. -/
def putBack (r : Registry) (filter : String) (id : SubscriptionId) : Registry :=
  if r.contains filter then r else { r with table := r.table ++ [(filter, id)] }

/-- The subscription in use under a filter. -/
def get (r : Registry) (filter : String) : Except Fault SubscriptionId :=
  match r.find? filter with
  | some id => .ok id
  | none => .error (.notSubscribed filter)

/-- The subscription that a message on the topic goes to: the one under the topic itself, else one
under a filter with wildcards. -/
def target? (r : Registry) (topic : String) : Option SubscriptionId :=
  match r.find? topic with
  | some id => some id
  | none =>
    (r.table.find? fun (filter, _) => hasWildcards filter && filterMatches filter topic).map (·.2)

/-- Hands a message to a subscription. -/
def deliver (r : Registry) (id : SubscriptionId) (m : Message) : Registry × List Order :=
  match r.made[id]? with
  | none => (r, [])
  | some s =>
    let (s, orders) := s.deliver m
    ({ r with made := r.made.set id s }, orders)

/-- Takes the next message of a subscription. -/
def take? (r : Registry) (id : SubscriptionId) (now : Instant) (timeout : Option Span) :
    Option (Except Fault Message × Registry) := do
  let s ← r.made[id]?
  let (result, s) ← s.take? now timeout
  return (result, { r with made := r.made.set id s })

/-- Takes the next message of the subscription in use under a filter; `none` if the call would wait
for ever. -/
def receive? (r : Registry) (filter : String) (now : Instant) (timeout : Option Span) :
    Option (Except Fault Message × Registry) :=
  match r.get filter with
  | .error fault => some (.error fault, r)
  | .ok id => r.take? id now timeout

end Registry

end Courier
