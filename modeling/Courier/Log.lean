/-!
# Lines of the log

What is said about a run: lines with a level and a source, written while some spans of work are
under way. That a span begins and ends can be said too.
-/

namespace Courier

/-- How lines are laid out. Only the first form is meant to be read by programs. -/
inductive LogFormat where
  | json
  | pretty
  | compact
  deriving DecidableEq, Repr

namespace LogFormat

/-- The form of a name, in letters of either case; other names stand for the first. -/
def ofText (text : String) : LogFormat :=
  match text.toLower with
  | "pretty" => .pretty
  | "compact" => .compact
  | _ => .json

def name : LogFormat → String
  | .json => "json"
  | .pretty => "pretty"
  | .compact => "compact"

end LogFormat

/-- The levels, from the gravest to the most talkative. -/
inductive LogLevel where
  | error
  | warn
  | info
  | debug
  | trace
  deriving DecidableEq, Repr

namespace LogLevel

def rank : LogLevel → Nat
  | .error => 1
  | .warn => 2
  | .info => 3
  | .debug => 4
  | .trace => 5

def name : LogLevel → String
  | .error => "ERROR"
  | .warn => "WARN"
  | .info => "INFO"
  | .debug => "DEBUG"
  | .trace => "TRACE"

/-- The level of a name, in letters of either case; other names stand for the middle one. -/
def ofText (text : String) : LogLevel :=
  match text.toUpper with
  | "ERROR" => .error
  | "WARN" => .warn
  | "DEBUG" => .debug
  | "TRACE" => .trace
  | _ => .info

end LogLevel

/-- Whether a text asks for lines about spans. -/
def asksForSpans (text : String) : Bool := text.toLower = "true"

/-- The parts of the program that lines come from. -/
inductive LogSource where
  | program
  | communicator
  | engine
  | client
  | signal
  | registry
  | mailbox
  deriving DecidableEq, Repr

/-- The name that filters know a source by. -/
def LogSource.path : LogSource → String
  | .program => "fast_comm"
  | .communicator => "fast_comm::communicator"
  | .engine => "fast_comm::library"
  | .client => "fast_comm::transport::mqtt::client"
  | .signal => "fast_comm::transport::mqtt::connection"
  | .registry => "fast_comm::subscription::registry"
  | .mailbox => "fast_comm::subscription::queue"

inductive LogValue where
  | text (s : String)
  | number (n : Nat)
  deriving DecidableEq, Repr

/-- A stretch of work, with what is known about it from its beginning. -/
structure LogSpan where
  source : LogSource
  details : List (String × LogValue)
  deriving DecidableEq, Repr

namespace LogSpan

def name : String := "mqtt_operation"

def level : LogLevel := .info

end LogSpan

structure LogLine where
  level : LogLevel
  source : LogSource
  message : String
  /-- The names of what it says besides the message. -/
  details : List String
  /-- The spans under way where it is said. -/
  within : List LogSpan
  /-- The span whose beginning or end it reports. -/
  about : Option LogSpan
  deriving DecidableEq, Repr

namespace LogLine

def say (level : LogLevel) (source : LogSource) (message : String) (details : List String) :
    LogLine :=
  ⟨level, source, message, details, [], none⟩

def beginning (span : LogSpan) : LogLine :=
  ⟨LogSpan.level, span.source, "new", [], [], some span⟩

def ending (span : LogSpan) : LogLine :=
  ⟨LogSpan.level, span.source, "close", [], [], some span⟩

/-- The line as it is said while a span is under way. -/
def inside (span : LogSpan) (line : LogLine) : LogLine :=
  { line with within := line.within ++ [span] }

end LogLine

/-! ### The room that lines take

A line is written with its time, level and source, and with the innermost span under way and all of
them. What the details of a line say is not known here, so their length is an estimate. -/

def LogValue.size : LogValue → Nat
  | .text s => s.utf8ByteSize
  | .number n => (toString n).length

/-- The bytes of a span in a line. -/
def LogSpan.size (span : LogSpan) : Nat :=
  11 + LogSpan.name.utf8ByteSize
    + (span.details.map fun (name, value) => name.utf8ByteSize + value.size + 6).foldl (· + ·) 0

/-- About the number of bytes of a line. -/
def LogLine.size (line : LogLine) : Nat :=
  let spans := match line.within.map LogSpan.size with
    | [] => 0
    | sizes@(size :: _) => 19 + size + sizes.foldl (· + ·) 0
  95 + line.source.path.utf8ByteSize + line.message.utf8ByteSize + 26 * line.details.length + spans

end Courier
