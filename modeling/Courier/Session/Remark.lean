import Courier.Log
import Courier.Registry.Change
import Courier.Session.Manager

/-!
# What a session says about itself

What a session has to say about itself, by what gives rise to it.
-/

namespace Courier

/-- What is said about a stimulus. -/
def Loop.remarks (l : Loop) (now : Instant) : Stimulus → List LogLine
  | .polled (.ok e) =>
    match e.route with
    | .message .. => [.say .trace .client "PUBLISH received" ["topic", "retain"]]
    | .subscribed .. => [.say .debug .client "SUBACK received" ["packet_id", "reason_codes"]]
    | .routine _ => [.say .trace .client "MQTT event" ["event"]]
    | _ => []
  | .polled (.error e) =>
    if l.connected then []
    else if e.isFatal then [.say .error .client "Connection attempt failed permanently" ["error"]]
    else if l.policy.isExhausted l.started now then
      [.say .warn .client "Connect budget spent" ["attempts", "error"]]
    else [.say .warn .client "Connection attempt failed" ["attempt", "error", "retry_in"]]
  | .proceed => [.say .info .client "Network thread stopped" ["client_id", "attempts"]]
  | _ => []

/-- What is said about a change of the session's state. -/
def Signal.remarks (s : Signal) : Signal.Event → List LogLine
  | .answered true => [.say .info .signal "Broker session established" ["code"]]
  | .answered false => [.say .warn .signal "Broker refused connection" ["code"]]
  | .lost =>
    if s.state = .connected then [.say .warn .signal "Broker session lost" ["reason"]]
    else [.say .info .signal "Broker session closed" ["reason"]]
  | _ => []

/-- What is said about the end of a change to the subscriptions. -/
def Change.remarks : Change → Except Fault Unit → List LogLine
  | .add .., .ok () => [.say .info .registry "Subscribed" ["filter", "qos", "delivery"]]
  | .remove _, .ok () => [.say .info .registry "Unsubscribed" ["filter"]]
  | .add .., .error (.subscribeFailed ..) =>
    [.say .warn .registry "SUBSCRIBE request rejected" ["filter", "error"]]
  | .remove _, .error (.subscribeFailed ..) =>
    [.say .warn .registry "UNSUBSCRIBE request rejected" ["filter", "error"]]
  | _, _ => []

/-- The work of the network thread. -/
def Manager.threadSpan (m : Manager) : LogSpan :=
  ⟨.client, [("operation", .text "network_loop"), ("client_id", .text m.clientId)]⟩

/-- What is said about the next step of a call. -/
def Manager.remarks (spawned : Except String Unit) (m : Manager) : Manager.Call → List LogLine
  | .listen .. => [.beginning m.threadSpan]
  | .spawn .. =>
    match spawned with
    | .ok () => []
    | .error _ => [.ending m.threadSpan]
  | .keep _ => [.say .info .client "Waiting for broker session" ["client_id", "timeout"]]
  | .bye =>
    match m.request? .disconnect with
    | some (.ok (), _) => []
    | _ => [.say .debug .client "Disconnect request not queued" ["client_id", "error"]]
  | _ => []

end Courier
