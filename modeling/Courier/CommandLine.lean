import Courier.CommandLine.Arguments
import Courier.Communicator.Site
import Courier.Config.File
import Courier.Files
import Courier.Log.Settings

/-!
# What the program does

What the program does when it is called: it puts its settings together, opens one communicator and
carries out one command with it. All that it has to say about a run goes to its log.
-/

namespace Courier.CommandLine

/-- What a run of the program leaves behind. -/
structure Outcome where
  /-- 0 for success, 1 for a failure, 2 for arguments that mean nothing, 101 for a breakdown. -/
  exit : Nat
  stdout : String
  format : LogFormat := .json
  /-- The lines that were written to the standard error. -/
  shown : List LogLine := []
  network : Network

namespace Outcome

/-- The lines that programs can read. -/
def log (o : Outcome) : List LogLine := if o.format = .json then o.shown else []

/-- About the number of bytes that were written to the standard error. -/
def stderrSize (o : Outcome) : Nat := (o.shown.map LogLine.size).foldl (· + ·) 0

/-- Whether the run could end while nobody was reading what it wrote, where there is room for so
many bytes of each kind of output. -/
def fits (o : Outcome) (room : Nat) : Bool := o.stdout.utf8ByteSize ≤ room && o.stderrSize ≤ room

end Outcome

def version : String := "fast-comm 0.1.0\n"

/-- The files that hold the settings if none is named, by preference. -/
def usualFiles : List String := ["fast-comm.toml", "config/fast-comm.toml"]

def usualConfig : Config :=
  { client := { subscribeTopic := "topic1", publishTopic := "topic1" }, broker := {} }

/-- The file that an invocation takes its settings from. -/
def Invocation.source? (i : Invocation) (files : Files) : Option String :=
  match i.file with
  | some path => some path
  | none => usualFiles.find? files.contains

/-- Settings with what an invocation overrides. -/
def Invocation.override (i : Invocation) (c : Config) : Config :=
  let c := { c with
    broker.host := i.host.getD c.broker.host
    broker.port := i.port.getD c.broker.port
    client.id := i.id.getD c.client.id }
  i.timeoutMs.elim c fun ms => c.withConnectTimeout (Span.ofMillis ms)

/-- The settings of an invocation. What a file holds has to be in order also before anything is
overridden. -/
def Invocation.config (i : Invocation) (files : Files) : Except ConfigFault Config := do
  let c ← match i.source? files with
    | some path => Config.load (files path)
    | none => .ok usualConfig
  let c := i.override c
  c.validate
  return c

/-- What is said about where the settings come from. -/
def Invocation.sourceRemarks (i : Invocation) (files : Files) : List LogLine :=
  (i.source? files).toList.map fun path =>
    .say .info .program s!"Loading configuration from: {path}" []

/-- The name of the one communicator of a run. -/
def self : String := "self"

/-- How long the listener waits for a message before it looks for a signal to stop. -/
def pollInterval : Span := Span.ofMillis 200

/-- A listener with the messages that it has printed, the latest last. -/
structure Listening where
  filter : String
  limit : Option UInt64
  printed : List Message

namespace Listening

def wantsMore (l : Listening) : Bool := l.limit.all fun limit => l.printed.length < limit.toNat

/-- Prints a message; that none came in time is no failure. -/
def hear (l : Listening) : Except Fault Message → Except Fault Listening
  | .ok m => .ok { l with printed := l.printed ++ [m] }
  | .error (.receiveTimeout _) => .ok l
  | .error fault => .error fault

def line (m : Message) : String := m.topic ++ "\t" ++ m.text ++ "\n"

def stdout (l : Listening) : String := String.join (l.printed.map line)

end Listening

/-- The end of a command: its result, what it printed, and what is left. -/
abbrev Finished := Except Fault Unit × String × Site

def note (s : Site) (level : LogLevel) (message : String) (details : List String) : Site :=
  { s with log := s.log ++ [.say level .program message details] }

/-- Opens the communicator, does something with it, and closes it whatever the result. -/
def withCommunicator? (s : Site) (config : Config) (body : Site → Option Finished) :
    Option Finished := do
  match ← s.open? self config with
  | (.error fault, s) => return (.error fault, "", s)
  | (.ok (), s) =>
    let (result, printed, s) ← body s
    return (result, printed, ← s.close? self)

def publish? (message : String) (topic : Option String) (s : Site) : Option Finished := do
  let (result, s) ← s.act? self fun c =>
    some (topic.elim (c.send message) fun topic => c.sendTo message topic .usual)
  match result with
  | .ok () => return (.ok (), "", note s .info "Message published" [])
  | .error fault => return (.error fault, "", s)

/-- Listens until there are messages enough or a signal has come; it comes when the broker has had
so many requests. With neither to come the listener never ends. -/
def listenOn? (signalAt : Option Nat) : Nat → Listening → Site → Option Finished
  | 0, _, _ => none
  | steps + 1, l, s =>
    let stopped (s : Site) : Finished :=
      (.ok (), l.stdout, note s .info "Listener stopped" ["received"])
    if l.wantsMore then do
      let (result, s) ← s.act? self fun c =>
        c.receiveFrom? l.filter s.network.now (some pollInterval)
      match result, l.hear result with
      | _, .error fault => return (.error fault, l.stdout, s)
      | .ok _, .ok l => listenOn? signalAt steps l s
      | .error _, .ok _ =>
        let requests := s.network.broker.elim 0 (·.log.length)
        if signalAt.any (· ≤ requests) then return stopped s else none
    else some (stopped s)

def listen? (signalAt : Option Nat) (filter : Option String) (limit : Option UInt64)
    (config : Config) (s : Site) : Option Finished := do
  let usual := config.client.subscribeTopic
  let filter := filter.getD usual
  let (result, s) ← if filter = usual then some (.ok (), s)
    else s.act? self fun c => some (c.add filter .usual (.queue .empty))
  match result with
  | .error fault => return (.error fault, "", s)
  | .ok () =>
    listenOn? signalAt Site.patience ⟨filter, limit, []⟩
      (note s .info "Listening, press Ctrl-C to stop" ["filter"])

/-- Sends a message and waits for one to come back. -/
def roundtrip? (message : String) (s : Site) : Option Finished := do
  match ← s.act? self fun c => some (c.send message) with
  | (.error fault, s) => return (.error fault, "", s)
  | (.ok (), s) =>
    match ← s.act? self fun c => c.receive? s.network.now none with
    | (.ok m, s) => return (.ok (), m.text ++ "\n", s)
    | (.error fault, s) => return (.error fault, "", s)

/-- The settings as they would stand in a file. -/
def printConfig (config : Config) (s : Site) : Finished :=
  match config.render? with
  | some text => (.ok (), text ++ "\n", s)
  | none => (.error (.config (.invalid Config.unwritable)), "", s)

def perform? (signalAt : Option Nat) (command : Command) (config : Config) (s : Site) :
    Option Finished :=
  match command with
  | .publish message topic => withCommunicator? s config (publish? message topic)
  | .listen filter limit => withCommunicator? s config (listen? signalAt filter limit config)
  | .roundtrip message => withCommunicator? s config (roundtrip? message)
  | .config => some (printConfig config s)

/-- A run that has read its arguments. -/
def Invocation.run? (i : Invocation) (files : Files) (signalAt : Option Nat) (s : Site) :
    Option Finished :=
  let s := { s with log := s.log ++ i.sourceRemarks files }
  match i.config files with
  | .error fault =>
    let fault := Fault.config fault
    some (.error fault, "", note s .error s!"Failed to load configuration: {fault.message}" [])
  | .ok config =>
    match perform? signalAt i.command config s with
    | some (.error fault, printed, s) =>
      some (.error fault, printed, note s .error s!"Command failed: {fault.message}" [])
    | finished => finished

/-- A run of the program; `none` if it never ends. If the settings of the log break down, so does
the run. -/
def run? (surroundings : Surroundings) (args : List String) (files : Files)
    (signalAt : Option Nat) (network : Network) : Option Outcome :=
  match wish surroundings.env args with
  | .version => some { exit := 0, stdout := version, network }
  | .help => some { exit := 0, stdout := "", network }
  | .misuse => some { exit := 2, stdout := "", network }
  | .run i =>
    match LogSettings.ofEnvironment surroundings.env with
    | .error _ => some { exit := 101, stdout := "", network }
    | .ok settings => do
      let (result, stdout, s) ← i.run? files signalAt (.fresh surroundings network)
      let exit := match result with
        | .ok () => 0
        | .error _ => 1
      return ⟨exit, stdout, settings.format, s.log.filter settings.shows, s.network⟩

end Courier.CommandLine
