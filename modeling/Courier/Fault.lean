import Courier.Span
import Courier.Topic

/-!
# Faults and their words

What can go wrong, and the words for it.
-/

namespace Courier

/-- Why a settings file gives no text. -/
inductive ReadFault where
  | notFound
  | notUtf8
  | isDirectory
  /-- A file stands where the path goes on. -/
  | notDirectory
  | denied
  /-- The path, or a name in it. -/
  | nameTooLong
  deriving DecidableEq, Repr

def ReadFault.message : ReadFault → String
  | .notFound => "No such file or directory (os error 2)"
  | .notUtf8 => "stream did not contain valid UTF-8"
  | .isDirectory => "Is a directory (os error 21)"
  | .notDirectory => "Not a directory (os error 20)"
  | .denied => "Permission denied (os error 13)"
  | .nameTooLong => "File name too long (os error 36)"

/-- Why a text gives no settings. -/
inductive TomlFault where
  /-- The text is no TOML document. -/
  | malformed
  | missingField (name : String)
  | wrongType (found expected : String)
  | outOfRange (n : Int) (expected : String)
  /-- A section written as an array ends before a field that has no default. -/
  | tooShort (length fields : Nat) (expected : String)
  deriving DecidableEq

def TomlFault.message : TomlFault → String
  | .malformed => "TOML parse error"
  | .missingField name => s!"missing field `{name}`"
  | .wrongType found expected => s!"invalid type: {found}, expected {expected}"
  | .outOfRange n expected => s!"invalid value: integer `{n}`, expected {expected}"
  | .tooShort length fields expected =>
    s!"invalid length {length}, expected {expected} with {fields} elements"

inductive ConfigFault where
  | unreadable (cause : ReadFault)
  | toml (cause : TomlFault)
  | invalidTopic (topic reason : String)
  | invalid (message : String)
  deriving DecidableEq

def ConfigFault.message : ConfigFault → String
  | .unreadable cause => s!"Failed to read config file: {cause.message}"
  | .toml cause => s!"Failed to parse TOML: {cause.message}"
  | .invalidTopic topic reason => s!"Invalid topic '{topic}': {reason}"
  | .invalid message => s!"Invalid configuration: {message}"

/-- Why an operation of a communicator failed. -/
inductive Fault where
  | connectTimeout (budget : Span)
  | connectFailed (message : String)
  | publishFailed (topic message : String)
  | receiveTimeout (filter : String)
  | alreadySubscribed (filter : String)
  | notSubscribed (filter : String)
  /-- Messages are asked for where a callback takes them. -/
  | callbackMode (filter : String)
  | engineFailed (message : String)
  | subscribeFailed (filter message : String)
  | invalidTopic (topic reason : String)
  | config (cause : ConfigFault)
  deriving DecidableEq

def Fault.message : Fault → String
  | .connectTimeout budget => s!"Connection timeout: no session established within {budget.text}"
  | .connectFailed message => s!"Connection failure: {message}"
  | .publishFailed topic message => s!"Publish failure on topic '{topic}': {message}"
  | .receiveTimeout filter => s!"Timeout while waiting for message on '{filter}'"
  | .alreadySubscribed filter => s!"Topic '{filter}' is already subscribed"
  | .notSubscribed filter => s!"Topic '{filter}' is not subscribed"
  | .callbackMode filter => s!"Topic '{filter}' is subscribed with callback"
  | .engineFailed message => s!"Library initialization failed: {message}"
  | .subscribeFailed filter message => s!"Subscription request for '{filter}' failed: {message}"
  | .invalidTopic topic reason => s!"Invalid topic '{topic}': {reason}"
  | .config cause => s!"Configuration error: {cause.message}"

/-- Accepts a well-formed filter. -/
def checkFilter (filter : String) : Except Fault Unit :=
  match filterFlaw? filter with
  | none => .ok ()
  | some flaw => .error (.invalidTopic filter flaw.reason)

/-- Accepts a topic that can be published on. -/
def checkTopic (topic : String) : Except Fault Unit :=
  match topicFlaw? topic with
  | none => .ok ()
  | some flaw => .error (.invalidTopic topic flaw.reason)

end Courier
