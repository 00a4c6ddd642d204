import Courier.Config

/-!
# The arguments of the program

The arguments of the program. Options stand before or after the command that they belong to; each
takes one value, as the next argument or joined to its name, and may be given once.
-/

namespace Courier.CommandLine

inductive Command where
  | publish (message : String) (topic : Option String)
  | listen (filter : Option String) (count : Option UInt64)
  | roundtrip (message : String)
  | config
  deriving DecidableEq, Repr

/-- What the program is asked to do, and what of the settings is overridden. -/
structure Invocation where
  file : Option String
  host : Option String
  port : Option UInt16
  id : Option String
  timeoutMs : Option UInt64
  command : Command
  deriving DecidableEq, Repr

inductive Wish where
  | run (i : Invocation)
  | version
  | help
  /-- The arguments mean nothing. -/
  | misuse
  deriving DecidableEq, Repr

structure OptionSpec where
  name : String
  letter : Option Char
  accepts : String → Bool

/-- The number that a text stands for, with or without a sign in front. -/
def integer? (text : String) : Option Int :=
  let digits (cs : List Char) : Option Nat :=
    if cs ≠ [] ∧ cs.all Char.isDigit then
      some (cs.foldl (fun n c => 10 * n + (c.toNat - 48)) 0)
    else none
  match text.toList with
  | '-' :: rest => (digits rest).map fun n => -Int.ofNat n
  | '+' :: rest => (digits rest).map Int.ofNat
  | cs => (digits cs).map Int.ofNat

def port? (text : String) : Option UInt16 :=
  match integer? text with
  | some n => if 0 ≤ n ∧ n.toNat < UInt16.size then some (UInt16.ofNat n.toNat) else none
  | none => none

/-- A count has no minus in front, not even before zero. -/
def count? (text : String) : Option UInt64 :=
  match integer? text with
  | some n =>
    if text.toList.head? ≠ some '-' ∧ n.toNat < UInt64.size then some (UInt64.ofNat n.toNat)
    else none
  | none => none

def anything : String → Bool := fun _ => true

def isPath (value : String) : Bool := value ≠ ""

def generalOptions : List OptionSpec :=
  [⟨"config", some 'c', isPath⟩, ⟨"host", none, anything⟩,
   ⟨"port", none, fun v => (port? v).isSome⟩, ⟨"id", none, anything⟩,
   ⟨"timeout-ms", none, fun v => (count? v).isSome⟩]

def publishOptions : List OptionSpec :=
  [⟨"message", some 'm', anything⟩, ⟨"topic", some 't', anything⟩]

def listenOptions : List OptionSpec :=
  [⟨"filter", some 'f', anything⟩, ⟨"count", some 'n', fun v => (count? v).isSome⟩]

def roundtripOptions : List OptionSpec := [⟨"message", some 'm', anything⟩]

/-- The values given so far, by the names of their options. -/
abbrev Values := List (String × String)

/-- What the arguments up to the first that is no option come to. -/
inductive Scan where
  | values (v : Values) (rest : List String)
  | version
  | help
  | misuse

/-- Whether an argument can be the value of the option before it. -/
def isValue (arg : String) : Bool := arg = "-" || !arg.startsWith "-"

/-- The option that an argument names, and the value joined to it. -/
def named? (specs : List OptionSpec) (arg : String) : Option (OptionSpec × Option String) :=
  match arg.toList with
  | '-' :: '-' :: cs => do
    let name := cs.takeWhile (· ≠ '=')
    let spec ← specs.find? (·.name = String.ofList name)
    return (spec, match cs.dropWhile (· ≠ '=') with
      | [] => none
      | _ :: value => some (String.ofList value))
  | '-' :: c :: cs => do
    let spec ← specs.find? (·.letter = some c)
    return (spec, match cs with
      | [] => none
      | '=' :: value => some (String.ofList value)
      | value => some (String.ofList value))
  | _ => none

/-- Notes the value of an option that has none yet. -/
def note? (values : Values) (spec : OptionSpec) (value : String) : Option Values :=
  if (values.lookup spec.name).isSome || !spec.accepts value then none
  else some (values ++ [(spec.name, value)])

def isHelp (arg : String) : Bool := arg = "--help" || arg.startsWith "-h"

def isVersion (arg : String) : Bool := arg = "--version" || arg.startsWith "-V"

/-- Reads options; `versioned` says whether the version may be asked for among them. -/
def scan (specs : List OptionSpec) (versioned : Bool) (values : Values) : List String → Scan
  | [] => .values values []
  | arg :: rest =>
    if isValue arg then .values values (arg :: rest)
    else if arg = "--" then if rest = [] then .values values [] else .misuse
    else if isHelp arg then .help
    else if versioned && isVersion arg then .version
    else match named? specs arg with
      | none => .misuse
      | some (spec, some value) =>
        match note? values spec value with
        | some values => scan specs versioned values rest
        | none => .misuse
      | some (spec, none) =>
        match rest with
        | [] => .misuse
        | value :: rest =>
          if isValue value then
            match note? values spec value with
            | some values => scan specs versioned values rest
            | none => .misuse
          else .misuse

/-- The command of the arguments after its name. -/
def command (specs : List OptionSpec) (args : List String) (build : Values → Option Command)
    (finish : Command → Wish) : Wish :=
  match scan specs false [] args with
  | .values values [] => (build values).elim .misuse finish
  | .values _ (_ :: _) => .misuse
  | .version => .misuse
  | .help => .help
  | .misuse => .misuse

/-- The value of an option, or else of a variable; none if the variable is no text. -/
def valueOr? (values : Values) (name : String) (env : Environment) (fallback : String) :
    Option (Option String) :=
  match values.lookup name with
  | some value => some (some value)
  | none =>
    match env.lookup fallback with
    | none => some none
    | some bytes => (Utf8.strict? bytes).map some

/-- An invocation with the options before the command and the variables that stand in for them. -/
def invocation? (values : Values) (env : Environment) (command : Command) : Option Invocation := do
  let host ← valueOr? values "host" env "FAST_COMM_HOST"
  let port ← match ← valueOr? values "port" env "FAST_COMM_PORT" with
    | none => some none
    | some text => (port? text).map some
  return { file := values.lookup "config", host, port, id := values.lookup "id"
           timeoutMs := values.lookup "timeout-ms" >>= count?, command }

/-- What is sent where no message is given. -/
def greeting : String := "Hallo Welt"

def commandNames : List String := ["publish", "listen", "roundtrip", "config", "help"]

/-- What the arguments ask for. -/
def wish (env : Environment) (args : List String) : Wish :=
  match scan generalOptions true [] args with
  | .values values (name :: rest) =>
    let finish (c : Command) : Wish := (invocation? values env c).elim .misuse .run
    match name with
    | "publish" =>
      command publishOptions rest
        (fun v => (v.lookup "message").map (.publish · (v.lookup "topic"))) finish
    | "listen" =>
      command listenOptions rest
        (fun v => some (.listen (v.lookup "filter") (v.lookup "count" >>= count?))) finish
    | "roundtrip" =>
      command roundtripOptions rest
        (fun v => some (.roundtrip ((v.lookup "message").getD greeting))) finish
    | "config" => command [] rest (fun _ => some .config) finish
    | "help" => if rest = [] ∨ rest ∈ commandNames.map ([·]) then .help else .misuse
    | _ => .misuse
  | .values _ [] => .misuse
  | .version => .version
  | .help => .help
  | .misuse => .misuse

end Courier.CommandLine
