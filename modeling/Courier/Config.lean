import Courier.Fault
import Courier.Utf8

/-!
# Settings

The settings of a communicator: who it is, which topics it uses by default, and how it reaches its
broker.
-/

namespace Courier

structure ClientSettings where
  /-- Empty where a name is to be generated. -/
  id : String := ""
  subscribeTopic : String
  publishTopic : String
  deriving DecidableEq, Repr

structure BrokerSettings where
  host : String := "localhost"
  port : UInt16 := 1883
  keepaliveSecs : UInt64 := 60
  /-- The time to establish the first session in, without bound if there is none. -/
  connectTimeoutMs : Option UInt64 := none
  retryIntervalMs : UInt64 := 1000
  /-- The environment variable that holds the user's name. -/
  usernameEnv : Option String := none
  passwordEnv : Option String := none
  deriving DecidableEq, Repr

structure Config where
  client : ClientSettings
  broker : BrokerSettings
  deriving DecidableEq, Repr

/-- The variables that a program is started with. -/
abbrev Environment := List (String × List UInt8)

/-- The text of a variable. A name that no variable can have finds none. -/
def Environment.text? (env : Environment) (name : String) : Option String :=
  if name = "" ∨ '=' ∈ name.toList ∨ '\x00' ∈ name.toList then none
  else env.lookup name >>= Utf8.strict?

namespace Config

def withConnectTimeout (c : Config) (timeout : Span) : Config :=
  { c with broker.connectTimeoutMs := some timeout.toMillis }

def withRetryInterval (c : Config) (interval : Span) : Config :=
  { c with broker.retryIntervalMs := interval.toMillis }

def connectTimeout (c : Config) : Option Span := c.broker.connectTimeoutMs.map Span.ofMillis

def retryInterval (c : Config) : Span := Span.ofMillis c.broker.retryIntervalMs

def keepalive (c : Config) : Span := Span.ofSecs c.broker.keepaliveSecs

def username? (c : Config) (env : Environment) : Option String :=
  c.broker.usernameEnv >>= env.text?

def password? (c : Config) (env : Environment) : Option String :=
  c.broker.passwordEnv >>= env.text?

/-- What a topic of the settings is refused with. -/
def topicFault (topic : String) (flaw : TopicFlaw) : ConfigFault :=
  .invalidTopic topic (Fault.invalidTopic topic flaw.reason).message

/-- The first fault of the settings, in the order in which they are declared. -/
def fault? (c : Config) : Option ConfigFault :=
  match filterFlaw? c.client.subscribeTopic, topicFlaw? c.client.publishTopic with
  | some flaw, _ => some (topicFault c.client.subscribeTopic flaw)
  | none, some flaw => some (topicFault c.client.publishTopic flaw)
  | none, none =>
    if c.client.id.toList.head? = some ' ' then
      some (.invalid "client id must not start with a space")
    else if c.broker.host = "" then some (.invalid "broker host must not be empty")
    else if c.broker.port = 0 then some (.invalid "broker port must be non-zero")
    else if c.broker.keepaliveSecs < 5 ∨ 65535 < c.broker.keepaliveSecs then
      some (.invalid "keepalive_secs must be between 5 and 65535")
    else if c.broker.retryIntervalMs = 0 then
      some (.invalid "retry_interval_ms must be greater than 0")
    else none

def validate (c : Config) : Except ConfigFault Unit :=
  match c.fault? with
  | none => .ok ()
  | some fault => .error fault

end Config

/-- The name under which a client presents itself; `fresh` completes a generated one. -/
def resolveClientId (fresh configured : String) : String :=
  if configured = "" then "fast-comm-" ++ fresh else configured

/-- What a client presents to its broker. -/
structure ConnectOptions where
  clientId : String
  host : String
  port : UInt16
  keepAlive : Span
  cleanStart : Bool
  /-- A user's name and password, which is empty if only the name is set. -/
  login : Option (String × String)
  deriving DecidableEq

def connectOptions (clientId : String) (c : Config) (env : Environment) :
    Except Fault ConnectOptions :=
  match c.fault? with
  | some fault => .error (.config fault)
  | none => .ok
    { clientId, host := c.broker.host, port := c.broker.port, keepAlive := c.keepalive,
      cleanStart := true,
      login := (c.username? env).map fun user => (user, (c.password? env).getD "") }

end Courier
