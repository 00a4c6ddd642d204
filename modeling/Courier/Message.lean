import Courier.Utf8

/-!
# Messages and requests

Messages, delivery guarantees, and the requests that a client makes of its broker.
-/

namespace Courier

/-- How often a message may arrive: at most once, at least once, exactly once. -/
inductive Guarantee where
  | atMostOnce
  | atLeastOnce
  | exactlyOnce
  deriving DecidableEq, Repr

namespace Guarantee

/-- The guarantee used where none is asked for. -/
def usual : Guarantee := .exactlyOnce

def level : Guarantee → Nat
  | .atMostOnce => 0
  | .atLeastOnce => 1
  | .exactlyOnce => 2

def ofLevel? : Nat → Option Guarantee
  | 0 => some .atMostOnce
  | 1 => some .atLeastOnce
  | 2 => some .exactlyOnce
  | _ => none

def name : Guarantee → String
  | .atMostOnce => "AtMostOnce"
  | .atLeastOnce => "AtLeastOnce"
  | .exactlyOnce => "ExactlyOnce"

end Guarantee

/-- An inbound message: the topic it was published on and its bytes. -/
structure Message where
  topic : String
  payload : List UInt8
  deriving DecidableEq, Repr

/-- The payload as text. -/
def Message.text (m : Message) : String := Utf8.lossy m.payload

/-- What a client asks of its broker. -/
inductive Request where
  | subscribe (filter : String) (guarantee : Guarantee)
  | unsubscribe (filter : String)
  | publish (topic : String) (payload : List UInt8) (guarantee : Guarantee) (retain : Bool)
  | disconnect
  deriving DecidableEq, Repr

end Courier
