import Courier.Fault
import Courier.Mailbox

/-!
# Subscriptions

A subscription takes the messages of one filter, for its whole life either into a mailbox or into a
callback.
-/

namespace Courier

/-- What a callback may ask for while it handles a message. -/
inductive Order where
  | publish (topic : String) (payload : List UInt8) (guarantee : Guarantee)
  | add (filter : String) (guarantee : Guarantee)
  | remove (filter : String)
  deriving DecidableEq, Repr

/-- What a callback sees: a message, or the answer to something it asked for. -/
inductive Sight where
  | received (filter : String) (m : Message)
  | answered (order : Order) (result : Except Fault Unit)

/-- A callback: what it asks for, in turn, when it is handed a message. -/
abbrev Handler := Message → List Order

inductive Delivery where
  | queue (box : Mailbox)
  | callback (handler : Handler)

inductive Mode where
  | queue
  | callback
  deriving DecidableEq, Repr

def Mode.name : Mode → String
  | .queue => "Queue"
  | .callback => "Callback"

structure Subscription where
  filter : String
  delivery : Delivery

namespace Subscription

def mode (s : Subscription) : Mode :=
  match s.delivery with
  | .queue _ => .queue
  | .callback _ => .callback

/-- The number of messages that wait, where messages wait. -/
def pending? (s : Subscription) : Option Nat :=
  match s.delivery with
  | .queue box => some box.pending.length
  | .callback _ => none

/-- Hands over a message. What a callback asks for in return is left to the caller. -/
def deliver (s : Subscription) (m : Message) : Subscription × List Order :=
  match s.delivery with
  | .queue box => ({ s with delivery := .queue (box.push m 0) }, [])
  | .callback handler => (s, handler m)

/-- The next message, if one is there or the time for it runs out; `none` if the call would wait
for ever. -/
def take? (s : Subscription) (now : Instant) (timeout : Option Span) :
    Option (Except Fault Message × Subscription) :=
  match s.delivery with
  | .callback _ => some (.error (.callbackMode s.filter), s)
  | .queue box =>
    (box.take? now timeout).map fun (m, box) =>
      (m.elim (.error (.receiveTimeout s.filter)) .ok, { s with delivery := .queue box })

end Subscription

end Courier
