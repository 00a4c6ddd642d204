import Courier.CommandLine

/-!
# The program

The program, with a broker in its own process: it talks to nothing but itself.
-/

namespace Courier.CommandLine

/-- The variables of the environment that have a meaning of their own. -/
def knownVariables : List String :=
  ["FAST_COMM_HOST", "FAST_COMM_PORT", "LOG_FORMAT", "LOG_LEVEL", "LOG_SPANS", "RUST_LOG"]

/-- The variables that the settings of an invocation name. -/
def namedVariables (wish : Wish) (files : Files) : List String :=
  match wish with
  | .run i =>
    match i.config files with
    | .ok c => c.broker.usernameEnv.toList ++ c.broker.passwordEnv.toList
    | .error _ => []
  | _ => []

/-- The paths that a run may read. -/
def paths : Wish → List String
  | .run i => i.file.elim usualFiles ([·])
  | _ => []

def readVariables (names : List String) : IO Environment :=
  names.filterMapM fun name => do
    return (← IO.getEnv name).map fun text => (name, Utf8.encode text)

/-- Whether a code stands for an error of the system, with either sign. -/
def isError (number code : UInt32) : Bool := code = number || code = 0 - number

def readFault : IO.Error → ReadFault
  | .inappropriateType _ code _ => if isError 20 code then .notDirectory else .isDirectory
  | .invalidArgument _ code _ => if isError 36 code then .nameTooLong else .notFound
  | .permissionDenied .. => .denied
  | _ => .notFound

def readFiles (paths : List String) : IO Files := do
  let found ← paths.mapM fun (path : String) => do
    try
      return (path, Except.ok (← IO.FS.readBinFile path).toList)
    catch e => return (path, .error (readFault e))
  return fun path => (found.lookup path).getD (.error .notFound)

def hexDigits (bytes : ByteArray) : String :=
  String.ofList <| bytes.toList.flatMap fun b =>
    [Nat.digitChar (b.toNat / 16), Nat.digitChar (b.toNat % 16)]

/-- One line of the log. -/
def logText (line : LogLine) : String := line.level.name ++ " " ++ line.message

end Courier.CommandLine

open Courier CommandLine

def main (args : List String) : IO UInt32 := do
  let known ← readVariables knownVariables
  let wish := wish known args
  let files ← readFiles (paths wish)
  let env := known ++ (← readVariables (namedVariables wish files))
  let fresh := hexDigits (← IO.getRandomBytes 16)
  let port := match wish with
    | .run i => ((i.config files).toOption.map (·.broker.port)).getD 1883
    | _ => 1883
  let network : Network := ⟨.origin, some (.atPort port)⟩
  match run? ⟨env, fresh, .ok (), .ok ()⟩ args files none network with
  | none =>
    (← IO.getStderr).putStrLn "the run does not end"
    return 1
  | some outcome =>
    let stderr ← IO.getStderr
    outcome.log.forM fun line => stderr.putStrLn (logText line)
    (← IO.getStdout).putStr outcome.stdout
    return UInt32.ofNat outcome.exit
