import Courier.Fault

/-!
# The shared runtime

The runtime that drives the sockets and timers of every communicator in a process. It is built for
the first handle and shut down with the last; acquiring and releasing each happen under one lock.
-/

namespace Courier

structure Engine where
  /-- The runtime that is up, by its place among all that were built. -/
  runtime : Option Nat
  /-- How many handles are out. -/
  count : Nat
  /-- How many runtimes were ever built. -/
  built : Nat
  deriving DecidableEq, Repr

/-- A handle refers to the runtime that was up when it was acquired. -/
structure Handle where
  runtime : Nat
  deriving DecidableEq, Repr

namespace Engine

def idle : Engine := ⟨none, 0, 0⟩

def isRunning (e : Engine) : Bool := e.runtime.isSome

/-- Hands out a handle; `building` says whether a runtime can be built if none is up. -/
def acquire (building : Except String Unit) (e : Engine) : Except Fault Handle × Engine :=
  match e.runtime, building with
  | some runtime, _ => (.ok ⟨runtime⟩, { e with count := e.count + 1 })
  | none, .ok () => (.ok ⟨e.built⟩, ⟨some e.built, e.count + 1, e.built + 1⟩)
  | none, .error cause => (.error (.engineFailed cause), e)

/-- Takes a handle back. -/
def release (e : Engine) : Engine :=
  let count := e.count - 1
  { e with count, runtime := if count = 0 then none else e.runtime }

end Engine

/-- An engine with the handles it gave out, in order; those given back are blank. -/
structure Custody where
  engine : Engine
  handles : List (Option Handle)
  deriving DecidableEq, Repr

namespace Custody

def empty : Custody := ⟨.idle, []⟩

/-- Acquires a handle; the result is its place. -/
def acquire (building : Except String Unit) (c : Custody) : Except Fault Nat × Custody :=
  match c.engine.acquire building with
  | (.ok handle, engine) => (.ok c.handles.length, ⟨engine, c.handles ++ [some handle]⟩)
  | (.error fault, engine) => (.error fault, { c with engine })

def held? (c : Custody) (place : Nat) : Option Handle := c.handles[place]?.join

/-- Gives a handle back; the result says whether it was still held. -/
def release (c : Custody) (place : Nat) : Bool × Custody :=
  match c.held? place with
  | some _ => (true, ⟨c.engine.release, c.handles.set place none⟩)
  | none => (false, c)

/-- The result of a computation on the runtime of a handle that is held. -/
def use? {α : Type} (c : Custody) (place : Nat) (computation : Unit → α) : Option α := do
  let handle ← c.held? place
  if c.engine.runtime = some handle.runtime then some (computation ()) else none

end Custody

end Courier
