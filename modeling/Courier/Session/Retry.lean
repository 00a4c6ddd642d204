import Courier.Config

/-!
# Retry policies

How often and for how long a client tries to establish its session: with a fixed pause between two
attempts, and for a total time that counts from the first one.
-/

namespace Courier

structure RetryPolicy where
  interval : Span
  /-- Without one the attempts go on for ever. -/
  timeout : Option Span
  deriving DecidableEq

namespace RetryPolicy

def usual : RetryPolicy := ⟨Span.ofSecs 1, none⟩

def ofConfig (c : Config) : RetryPolicy := ⟨c.retryInterval, c.connectTimeout⟩

/-- The end of the attempts begun at an instant; there is none if the clock cannot show it. -/
def deadline? (p : RetryPolicy) (started : Instant) : Option Instant := p.timeout >>= started.after?

def isExhausted (p : RetryPolicy) (started now : Instant) : Bool :=
  (p.deadline? started).any fun deadline => deadline ≤ now

def timeoutFault (p : RetryPolicy) : Fault := .connectTimeout (p.timeout.getD .longest)

end RetryPolicy

end Courier
