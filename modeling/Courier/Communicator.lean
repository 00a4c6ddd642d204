import Courier.Engine
import Courier.Quoted
import Courier.Session.Client

/-!
# Communicators

A communicator sends and receives messages through a client with a session. It has a topic that it
publishes on and a filter that it receives from where nothing else is said.
-/

namespace Courier

structure Communicator where
  config : Config
  client : Client
  handle : Handle

namespace Communicator

def clientId (c : Communicator) : String := c.client.manager.clientId

def state (c : Communicator) : SessionState := c.client.manager.state

/-- The filters in use, in alphabetical order. -/
def subscriptions (c : Communicator) : List String := c.client.registry.filters

/-- Hands a message over to be published. Success does not mean that the broker has it. -/
def sendTo (c : Communicator) (message topic : String) (guarantee : Guarantee) :
    Except Fault Unit × Communicator :=
  let (result, client) := c.client.publish .caller topic (Utf8.encode message) guarantee
  (result, { c with client })

/-- Publishes on the usual topic. -/
def send (c : Communicator) (message : String) : Except Fault Unit × Communicator :=
  c.sendTo message c.config.client.publishTopic .usual

/-- The next message of a subscription; `none` if the call would wait for ever. -/
def receiveFrom? (c : Communicator) (filter : String) (now : Instant) (timeout : Option Span) :
    Option (Except Fault Message × Communicator) :=
  (c.client.receive? filter now timeout).map fun (result, client) => (result, { c with client })

/-- The next message of the usual subscription. -/
def receive? (c : Communicator) (now : Instant) (timeout : Option Span) :
    Option (Except Fault Message × Communicator) :=
  c.receiveFrom? c.config.client.subscribeTopic now timeout

def add (c : Communicator) (filter : String) (guarantee : Guarantee) (delivery : Delivery) :
    Except Fault Unit × Communicator :=
  let (result, client) := c.client.change .caller (.add filter guarantee delivery)
  (result, { c with client })

def remove (c : Communicator) (filter : String) : Except Fault Unit × Communicator :=
  let (result, client) := c.client.change .caller (.remove filter)
  (result, { c with client })

/-- A communicator in short: its name, its state and its filters. -/
def text (c : Communicator) : String :=
  "MqttCommunicator \x7b client_id: " ++ Quoted.text c.clientId ++ ", state: " ++ c.state.name
    ++ ", subscriptions: [" ++ ", ".intercalate (c.subscriptions.map Quoted.text) ++ "] \x7d"

end Communicator

end Courier
