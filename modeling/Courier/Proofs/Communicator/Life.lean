import Courier.Communicator.Life
import Courier.Proofs.Engine
import Courier.Proofs.Session.Call

/-!
# The steps of a communicator's life

What a step of a life comes to, and what it may do with the engine.
-/

namespace Courier

namespace Engine

/-- What a step may do with the engine, and the handle of the one who takes it before and after. -/
inductive Deals (e : Engine) : Engine → Option Handle → Option Handle → Prop where
  | keep (held : Option Handle) : Deals e e held held
  | acquire {building : Except String Unit} {handle : Handle} {engine : Engine}
      (acquired : e.acquire building = (.ok handle, engine)) : Deals e engine none (some handle)
  | release (handle : Handle) : Deals e e.release (some handle) none

end Engine

namespace Life

def communicator? : Life → Option Communicator
  | .connecting c _ | .abandoning c _ _ | .subscribing c | .ready c | .closing c _ _ => some c
  | .begun _ | .checked _ | .held .. | .releasing .. | .ended _ => none

def withClient (client : Client) : Life → Life
  | .connecting c call => .connecting { c with client } call
  | .abandoning c call fault => .abandoning { c with client } call fault
  | .subscribing c => .subscribing { c with client }
  | .ready c => .ready { c with client }
  | .closing c call fault => .closing { c with client } call fault
  | life => life

/-- The handle that a communicator holds. -/
def handle? : Life → Option Handle
  | .held _ handle | .releasing handle _ _ => some handle
  | .connecting c _ | .abandoning c _ _ | .subscribing c | .ready c | .closing c _ _ =>
    some c.handle
  | .begun _ | .checked _ | .ended _ => none

/-- Why a communicator cannot be opened, once that is known. -/
def fault? : Life → Option Fault
  | .abandoning _ _ fault => some fault
  | .closing _ _ fault | .releasing _ _ fault | .ended fault => fault
  | _ => none

/-- The settings of a communicator that is being opened. -/
def config? : Life → Option Config
  | .begun config | .checked config | .held config _ => some config
  | .connecting c _ | .subscribing c => some c.config
  | _ => none

/-- Whether a communicator has not come to subscribe yet. -/
def isEarly : Life → Bool
  | .begun _ | .checked _ | .held .. | .connecting .. => true
  | _ => false

def isReady : Life → Bool
  | .ready _ => true
  | _ => false

/-- The call to connect. -/
def opener : Life → Manager.Call
  | .connecting _ call => call
  | .abandoning _ _ fault => .returned (.error fault)
  | _ => .returned (.ok ())

/-- The call to disconnect, if there is one. -/
def closers : Life → List Manager.Call
  | .abandoning _ call _ | .closing _ call _ => [call]
  | _ => []

/-- The call that adds the usual subscription, when it begins. -/
def adding? : Life → Option Change
  | .subscribing c => some (.add c.config.client.subscribeTopic .usual (.queue .empty))
  | _ => none

variable (life : Life) (client : Client)

@[simp] theorem communicator?_withClient :
    (life.withClient client).communicator? = life.communicator?.map fun c => { c with client } := by
  cases life <;> rfl

@[simp] theorem handle?_withClient : (life.withClient client).handle? = life.handle? := by
  cases life <;> rfl

@[simp] theorem fault?_withClient : (life.withClient client).fault? = life.fault? := by
  cases life <;> rfl

@[simp] theorem config?_withClient : (life.withClient client).config? = life.config? := by
  cases life <;> rfl

@[simp] theorem isEarly_withClient : (life.withClient client).isEarly = life.isEarly := by
  cases life <;> rfl

@[simp] theorem opener_withClient : (life.withClient client).opener = life.opener := by
  cases life <;> rfl

@[simp] theorem closers_withClient : (life.withClient client).closers = life.closers := by
  cases life <;> rfl

variable {life} {client}

theorem handle?_of_communicator? {c : Communicator} (here : life.communicator? = some c) :
    life.handle? = some c.handle := by
  cases life with
  | connecting | abandoning | subscribing | ready | closing =>
    cases here
    rfl
  | _ => cases here

theorem withClient_self {c : Communicator} (here : life.communicator? = some c) :
    life.withClient c.client = life := by
  cases life with
  | connecting | abandoning | subscribing | ready | closing =>
    cases here
    rfl
  | _ => rfl

theorem not_ready_of_isEarly (early : life.isEarly) : life.isReady = false := by
  cases life with
  | ready => cases early
  | _ => rfl

theorem subscribing_of_withClient {c : Communicator} (h : life.withClient client = .subscribing c) :
    ∃ c', life = .subscribing c' ∧ c = { c' with client } := by
  cases life with
  | subscribing c' =>
    cases h
    exact ⟨c', rfl, rfl⟩
  | _ => cases h

theorem closing_of_withClient {c : Communicator} {call : Manager.Call} {fault : Option Fault}
    (h : life.withClient client = .closing c call fault) :
    ∃ c', life = .closing c' call fault ∧ c = { c' with client } := by
  cases life with
  | closing c' =>
    cases h
    exact ⟨c', rfl, rfl⟩
  | _ => cases h

end Life

namespace Client

theorem step?_eq_some {c c' : Client} {now : Instant} {spawned : Except String Unit}
    {call next : Manager.Call} (h : c.step? spawned now call = some (next, c')) :
    c.manager.step? spawned now 0 call = some (next, c'.manager) ∧ c'.registry = c.registry := by
  obtain ⟨⟨next, manager⟩, stepped, same⟩ := Option.map_eq_some_iff.mp h
  cases same
  exact ⟨stepped, rfl⟩

end Client

namespace Life

variable {s : Surroundings} {now : Instant} {e e' : Engine} {life life' : Life}
  {lines : List LogLine} {c : Communicator} {call : Manager.Call}

/-- What a step of a life comes to, apart from the one that subscribes. -/
inductive Turns (s : Surroundings) (now : Instant) (e : Engine) : Life → Life → Engine → Prop where
  | refuse {config : Config} {fault : ConfigFault} (invalid : config.fault? = some fault) :
    Turns s now e (.begun config) (.ended (some (.config fault))) e
  | check {config : Config} (valid : config.fault? = none) :
    Turns s now e (.begun config) (.checked config) e
  | acquire {config : Config} {handle : Handle} {engine : Engine}
      (acquired : e.acquire s.building = (.ok handle, engine)) :
    Turns s now e (.checked config) (.held config handle) engine
  | unbuilt {config : Config} {fault : Fault} {engine : Engine}
      (failed : e.acquire s.building = (.error fault, engine)) :
    Turns s now e (.checked config) (.ended (some fault)) engine
  | create {config : Config} {handle : Handle} {m : Manager}
      (created : Manager.create s.fresh config s.env = .ok m) :
    Turns s now e (.held config handle)
      (.connecting ⟨config, .ofManager m (opening config), handle⟩ .connect) e
  | uncreated {config : Config} {handle : Handle} {fault : Fault}
      (failed : Manager.create s.fresh config s.env = .error fault) :
    Turns s now e (.held config handle) (.releasing handle none (some fault)) e
  | connect {c : Communicator} {call next : Manager.Call} {client : Client}
      (steps : c.client.manager.Steps s.spawning now 0 call next client.manager)
      (same : client.registry = c.client.registry) :
    Turns s now e (.connecting c call) (.connecting { c with client } next) e
  | connected (c : Communicator) :
    Turns s now e (.connecting c (.returned (.ok ()))) (.subscribing c) e
  | unconnected (c : Communicator) (fault : Fault) :
    Turns s now e (.connecting c (.returned (.error fault)))
      (.abandoning c (.stop (.ok ())) fault) e
  | abandon {c : Communicator} {call next : Manager.Call} {client : Client} (fault : Fault)
      (steps : c.client.manager.Steps s.spawning now 0 call next client.manager) :
    Turns s now e (.abandoning c call fault) (.abandoning { c with client } next fault) e
  | abandoned (c : Communicator) (result : Except Fault Unit) (fault : Fault) :
    Turns s now e (.abandoning c (.returned result) fault)
      (.releasing c.handle none (some fault)) e
  | close {c : Communicator} {call next : Manager.Call} {client : Client} (fault : Option Fault)
      (steps : c.client.manager.Steps s.spawning now 0 call next client.manager) :
    Turns s now e (.closing c call fault) (.closing { c with client } next fault) e
  | closed (c : Communicator) (result : Except Fault Unit) (fault : Option Fault) :
    Turns s now e (.closing c (.returned result) fault)
      (.releasing c.handle (c.client.work .caller) fault) e
  | release (handle : Handle) (work : Option LogSpan) (fault : Option Fault) :
    Turns s now e (.releasing handle work fault) (.ended fault) e.release

theorem step?_connecting (going : call.isOver = false) :
    (Life.connecting c call).step? s now e =
      (c.client.step? s.spawning now call).map fun (call, client) =>
        (.connecting { c with client } call, e, []) := by
  cases call with
  | returned => cases going
  | _ => rfl

theorem step?_abandoning {fault : Fault} (going : call.isOver = false) :
    (Life.abandoning c call fault).step? s now e =
      (c.client.step? s.spawning now call).map fun (call, client) =>
        (.abandoning { c with client } call fault, e, []) := by
  cases call with
  | returned => cases going
  | _ => rfl

theorem step?_closing {fault : Option Fault} (going : call.isOver = false) :
    (Life.closing c call fault).step? s now e =
      (c.client.step? s.spawning now call).map fun (call, client) =>
        (.closing { c with client } call fault, e, []) := by
  cases call with
  | returned => cases going
  | _ => rfl

theorem returned_of_isOver (finished : call.isOver) : ∃ result, call = .returned result := by
  cases call with
  | returned result => exact ⟨result, rfl⟩
  | _ => cases finished

theorem turns_of_step? (other : ∀ c, life ≠ .subscribing c)
    (h : life.step? s now e = some (life', e', lines)) : Turns s now e life life' e' := by
  cases life with
  | begun config =>
    simp only [step?] at h
    split at h
    · rename_i fault invalid
      cases h
      exact .refuse invalid
    · rename_i valid
      cases h
      exact .check valid
  | checked config =>
    simp only [step?] at h
    split at h
    · rename_i handle engine acquired
      cases h
      exact .acquire acquired
    · rename_i fault engine failed
      cases h
      exact .unbuilt failed
  | held config handle =>
    simp only [step?] at h
    split at h
    · rename_i m created
      cases h
      exact .create created
    · rename_i fault failed
      cases h
      exact .uncreated failed
  | connecting c call =>
    by_cases finished : call.isOver
    · obtain ⟨fault | ⟨⟩, rfl⟩ := returned_of_isOver finished
      · cases h
        exact .unconnected c fault
      · cases h
        exact .connected c
    · rw [step?_connecting (eq_false_of_ne_true finished)] at h
      obtain ⟨⟨next, client⟩, stepped, same⟩ := Option.map_eq_some_iff.mp h
      cases same
      obtain ⟨stepped, registry⟩ := Client.step?_eq_some stepped
      exact .connect (Manager.steps_of_step? stepped) registry
  | abandoning c call fault =>
    by_cases finished : call.isOver
    · obtain ⟨result, rfl⟩ := returned_of_isOver finished
      cases h
      exact .abandoned c result fault
    · rw [step?_abandoning (eq_false_of_ne_true finished)] at h
      obtain ⟨⟨next, client⟩, stepped, same⟩ := Option.map_eq_some_iff.mp h
      cases same
      exact .abandon fault (Manager.steps_of_step? (Client.step?_eq_some stepped).1)
  | closing c call fault =>
    by_cases finished : call.isOver
    · obtain ⟨result, rfl⟩ := returned_of_isOver finished
      cases h
      exact .closed c result fault
    · rw [step?_closing (eq_false_of_ne_true finished)] at h
      obtain ⟨⟨next, client⟩, stepped, same⟩ := Option.map_eq_some_iff.mp h
      cases same
      exact .close fault (Manager.steps_of_step? (Client.step?_eq_some stepped).1)
  | subscribing c => exact absurd rfl (other c)
  | ready | ended => cases h
  | releasing handle work fault =>
    cases h
    exact .release handle work fault

/-- A life becomes ready by subscribing and by nothing else. -/
theorem Turns.not_ready (turns : Turns s now e life life' e') : life'.isReady = false := by
  cases turns <;> rfl

end Life

end Courier
