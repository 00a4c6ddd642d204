import Courier.Config
import Courier.Quoted
import Courier.Toml.Document
import Courier.Toml.Writer

/-!
# Settings as TOML

Settings as TOML. A file has the sections `communicator` and `broker`; a field that is absent takes
its default, and keys that mean nothing are passed over. Faults are reported for the document as a
whole first and then field by field, in the order in which the document gives them.
-/

namespace Courier.Config

open Toml (Value Table)

/-- What a value is called where another kind is expected. -/
def kindOf : Value → String
  | .string s => "string " ++ Quoted.text s
  | .integer n => s!"integer `{n}`"
  | .float x => s!"floating point `{x.text}`"
  | .boolean b => s!"boolean `{b}`"
  | .moment => "map"
  | .array _ => "sequence"
  | .table _ => "map"

def asText : Value → Except TomlFault String
  | .string s => .ok s
  | v => .error (.wrongType (kindOf v) "a string")

def asPort : Value → Except TomlFault UInt16
  | .integer n =>
    if 0 ≤ n ∧ n.toNat < UInt16.size then .ok (UInt16.ofNat n.toNat)
    else .error (.outOfRange n "u16")
  | v => .error (.wrongType (kindOf v) "u16")

def asCount : Value → Except TomlFault UInt64
  | .integer n =>
    if 0 ≤ n ∧ n.toNat < UInt64.size then .ok (UInt64.ofNat n.toNat)
    else .error (.outOfRange n "u64")
  | v => .error (.wrongType (kindOf v) "u64")

def asOptional {α : Type} (read : Value → Except TomlFault α) (v : Value) :
    Except TomlFault (Option α) :=
  (read v).map some

/-- The field of a table, or its default. -/
def fieldOr {α : Type} (read : Value → Except TomlFault α) (default : α) (t : Table)
    (key : String) : Except TomlFault α :=
  match t.lookup key with
  | some v => read v
  | none => .ok default

/-- The field of a table that has no default. -/
def field {α : Type} (read : Value → Except TomlFault α) (t : Table) (key : String) :
    Except TomlFault α :=
  match t.lookup key with
  | some v => read v
  | none => .error (.missingField key)

/-- The item of an array that stands for a field, or the field's default. -/
def itemOr {α : Type} (read : Value → Except TomlFault α) (default : α) (items : List Value)
    (place : Nat) : Except TomlFault α :=
  match items[place]? with
  | some v => read v
  | none => .ok default

def item {α : Type} (read : Value → Except TomlFault α) (items : List Value) (place fields : Nat)
    (expected : String) : Except TomlFault α :=
  match items[place]? with
  | some v => read v
  | none => .error (.tooShort place fields expected)

end Courier.Config

namespace Courier.ClientSettings

open Config
open Toml (Value Table)

/-- Accepts what the entry says, unless its key means nothing. -/
def checkEntry : String × Value → Except TomlFault Unit
  | (key, v) =>
    if key ∈ ["id", "subscribe_topic", "publish_topic"] then (asText v).map fun _ => () else .ok ()

def ofTable (t : Table) : Except TomlFault ClientSettings := do
  t.forM checkEntry
  let id ← fieldOr asText "" t "id"
  let subscribeTopic ← field asText t "subscribe_topic"
  let publishTopic ← field asText t "publish_topic"
  return { id, subscribeTopic, publishTopic }

def ofItems (items : List Value) : Except TomlFault ClientSettings := do
  let expected := "struct CommunicatorSection"
  let id ← itemOr asText "" items 0
  let subscribeTopic ← item asText items 1 3 expected
  let publishTopic ← item asText items 2 3 expected
  return { id, subscribeTopic, publishTopic }

/-- The section as a table, as an array of its fields in order, or as a date, which has none of
them. -/
def ofValue : Value → Except TomlFault ClientSettings
  | .table t => ofTable t
  | .array items => ofItems items
  | .moment => ofTable []
  | v => .error (.wrongType (kindOf v) "struct CommunicatorSection")

end Courier.ClientSettings

namespace Courier.BrokerSettings

open Config
open Toml (Value Table)

/-- Accepts what the entry says, unless its key means nothing. -/
def checkEntry : String × Value → Except TomlFault Unit
  | (key, v) =>
    if key ∈ ["host", "username_env", "password_env"] then (asText v).map fun _ => ()
    else if key = "port" then (asPort v).map fun _ => ()
    else if key ∈ ["keepalive_secs", "connect_timeout_ms", "retry_interval_ms"] then
      (asCount v).map fun _ => ()
    else .ok ()

def ofTable (t : Table) : Except TomlFault BrokerSettings := do
  t.forM checkEntry
  let host ← fieldOr asText "localhost" t "host"
  let port ← fieldOr asPort 1883 t "port"
  let keepaliveSecs ← fieldOr asCount 60 t "keepalive_secs"
  let connectTimeoutMs ← fieldOr (asOptional asCount) none t "connect_timeout_ms"
  let retryIntervalMs ← fieldOr asCount 1000 t "retry_interval_ms"
  let usernameEnv ← fieldOr (asOptional asText) none t "username_env"
  let passwordEnv ← fieldOr (asOptional asText) none t "password_env"
  return { host, port, keepaliveSecs, connectTimeoutMs, retryIntervalMs, usernameEnv, passwordEnv }

def ofItems (items : List Value) : Except TomlFault BrokerSettings := do
  let host ← itemOr asText "localhost" items 0
  let port ← itemOr asPort 1883 items 1
  let keepaliveSecs ← itemOr asCount 60 items 2
  let connectTimeoutMs ← itemOr (asOptional asCount) none items 3
  let retryIntervalMs ← itemOr asCount 1000 items 4
  let usernameEnv ← itemOr (asOptional asText) none items 5
  let passwordEnv ← itemOr (asOptional asText) none items 6
  return { host, port, keepaliveSecs, connectTimeoutMs, retryIntervalMs, usernameEnv, passwordEnv }

def ofValue : Value → Except TomlFault BrokerSettings
  | .table t => ofTable t
  | .array items => ofItems items
  | .moment => ofTable []
  | v => .error (.wrongType (kindOf v) "struct BrokerSection")

end Courier.BrokerSettings

namespace Courier.Config

open Toml (Value Table)

/-- Accepts a section, unless its name means nothing. -/
def checkSection : String × Value → Except TomlFault Unit
  | (key, v) =>
    if key = "communicator" then (ClientSettings.ofValue v).map fun _ => ()
    else if key = "broker" then (BrokerSettings.ofValue v).map fun _ => ()
    else .ok ()

def ofTable (t : Table) : Except TomlFault Config := do
  t.forM checkSection
  let client ← field ClientSettings.ofValue t "communicator"
  let broker ← field BrokerSettings.ofValue t "broker"
  return { client, broker }

def ofText (text : String) : Except TomlFault Config :=
  match Toml.parse? text with
  | some t => ofTable t
  | none => .error .malformed

/-- The settings that the bytes of a file give, or that a file which cannot be read does not. -/
def load (content : Except ReadFault (List UInt8)) : Except ConfigFault Config :=
  match content with
  | .error fault => .error (.unreadable fault)
  | .ok bytes =>
    match Utf8.strict? bytes with
    | none => .error (.unreadable .notUtf8)
    | some text =>
      match ofText text with
      | .error fault => .error (.toml fault)
      | .ok c =>
        match c.fault? with
        | some fault => .error fault
        | none => .ok c

/-- A line that sets a field to a text. -/
def textLine (key : String) (s : String) : List Char :=
  key.toList ++ [' ', '=', ' '] ++ Toml.quote s.toList ++ ['\n']

def countLine (key : String) (n : Nat) : List Char :=
  key.toList ++ [' ', '=', ' '] ++ Nat.toDigits 10 n ++ ['\n']

/-- A TOML integer is at most this large. -/
def largestInteger : Nat := 9223372036854775807

/-- Whether a TOML document can hold the settings. -/
def isWritable (c : Config) : Bool :=
  c.broker.keepaliveSecs.toNat ≤ largestInteger && c.broker.retryIntervalMs.toNat ≤ largestInteger
    && c.broker.connectTimeoutMs.all fun n => n.toNat ≤ largestInteger

/-- The settings as a document, with the fields in the order of their declaration and those without
a value left out; `none` if an integer is too large for one. -/
def render? (c : Config) : Option String :=
  if c.isWritable then
    some <| String.ofList <|
      "[communicator]\n".toList
        ++ textLine "id" c.client.id
        ++ textLine "subscribe_topic" c.client.subscribeTopic
        ++ textLine "publish_topic" c.client.publishTopic
        ++ "\n[broker]\n".toList
        ++ textLine "host" c.broker.host
        ++ countLine "port" c.broker.port.toNat
        ++ countLine "keepalive_secs" c.broker.keepaliveSecs.toNat
        ++ (c.broker.connectTimeoutMs.elim [] fun n => countLine "connect_timeout_ms" n.toNat)
        ++ countLine "retry_interval_ms" c.broker.retryIntervalMs.toNat
        ++ (c.broker.usernameEnv.elim [] (textLine "username_env"))
        ++ (c.broker.passwordEnv.elim [] (textLine "password_env"))
  else none

/-- What a document that cannot be written is refused with. -/
def unwritable : String := "out-of-range value for u64 type"

end Courier.Config
