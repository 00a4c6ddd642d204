import Mathlib.Logic.Relation
import Courier.Proofs.Communicator.Life
import Courier.Proofs.Session.Ensemble
import Courier.Proofs.Traffic

/-!
# A communicator among others

The life of one communicator while anything else may go on: its network thread, and others that
take and give back handles of the same engine. What it finds where it is opened may be different at
each step, and what its link holds may change at any time.
-/

namespace Courier

/-- A communicator with another registry and another link. -/
def Communicator.having (c : Communicator) (registry : Registry) (link : Link) : Communicator :=
  { c with client := { c.client with registry }.withLink link }

/-- What becomes of a communicator when the usual subscription is added or not. -/
def Communicator.added (c : Communicator) (result : Except Fault Unit) : Life :=
  let change : Change := .add c.config.client.subscribeTopic .usual (.queue .empty)
  let c := { c with client := c.client.say .caller (change.remarks result) }
  match result with
  | .ok () => .ready (Life.settle c)
  | .error fault => .closing c .disconnect (some fault)

structure Tenant where
  /-- The settings that it was asked for with. -/
  config : Config
  life : Life
  /-- The call that adds the usual subscription, while it goes on. -/
  adding : Option Change
  /-- What the network thread has decided to do and not done yet. -/
  underway : Option (Loop.Deed × Effect)
  /-- What there was of the network thread when the communicator was put away. -/
  left : Option NetworkThread
  /-- What the thread did, the latest last. -/
  deeds : List Loop.Deed
  /-- The requests of the usual subscription that the link accepted. -/
  accepted : List Request
  /-- How many handles it has acquired from the engine. -/
  acquired : Nat
  /-- How many it has given back. -/
  released : Nat

namespace Tenant

def start (config : Config) : Tenant := ⟨config, .begun config, none, none, none, [], [], 0, 0⟩

/-- Its network thread, or what was left of it. -/
def thread? (t : Tenant) : Option NetworkThread :=
  match t.life.communicator? with
  | some c => c.client.manager.thread
  | none => t.left

def become (t : Tenant) (life : Life) : Tenant :=
  { t with life, adding := life.adding?, left := t.thread? }

/-- Notes what a step took from the engine or gave back to it. -/
def note (t : Tenant) (before after : Engine) : Tenant :=
  { t with
    acquired := t.acquired + (after.count - before.count)
    released := t.released + (before.count - after.count) }

/-- The next step of the call that adds the usual subscription. -/
def add (t : Tenant) (c : Communicator) : Change → Tenant
  | .finished result => t.become (c.added result)
  | change =>
    let (change, registry, link, accepted) :=
      change.step (Traffic.noting (Client.answers .caller))
        (c.client.registry, c.client.manager.link, t.accepted)
    { t with life := .subscribing (c.having registry link), adding := some change, accepted }

/-- The next step of a communicator's life, with the engine after it. -/
def advance? (s : Surroundings) (now : Instant) (e : Engine) (t : Tenant) :
    Option (Tenant × Engine) :=
  match t.life, t.adding with
  | .subscribing c, some change => some (t.add c change, e)
  | life, _ => (life.step? s now e).map fun (life, engine, _) =>
    ((t.become life).note e engine, engine)

/-- What may happen to a communicator apart from the steps of its life. -/
inductive Act where
  /-- It is in use, and is told to close. -/
  | close
  /-- It is in use, and its subscriptions are changed. -/
  | use (registry : Registry)
  /-- The call to connect wakes up for no reason. -/
  | stir
  /-- What the link holds changes. -/
  | relink (link : Link)
  /-- The network thread reads the clock, before it does anything else. -/
  | launch
  /-- The thread decides what to do. -/
  | react (stimulus : Stimulus)
  /-- It does what it has decided. -/
  | carryOut

def withClient (t : Tenant) (client : Client) : Tenant :=
  { t with life := t.life.withClient client }

def act? (now : Instant) (t : Tenant) : Act → Option Tenant
  | .close => if t.life.isReady then some (t.become t.life.close) else none
  | .use registry =>
    if t.life.isReady then
      t.life.communicator?.map fun c => t.withClient { c.client with registry }
    else none
  | .stir =>
    match t.life with
    | .connecting c (.asleep deadline) =>
      (c.client.manager.signal.step? now (.stir 0)).map fun woken =>
        let (call, manager) := c.client.manager.settleWait (.asleep deadline) woken
        t.become (.connecting { c with client := { c.client with manager } } call)
    | _ => none
  | .relink link => t.life.communicator?.map fun c => t.withClient (c.client.withLink link)
  | .launch =>
    if t.deeds.isEmpty ∧ t.underway.isNone then
      t.life.communicator?.bind fun c => c.client.manager.thread.map fun thread =>
        t.withClient
          (c.client.withThread { thread with loop := .fresh c.client.manager.policy now })
    else none
  | .react stimulus => t.life.communicator?.bind fun c => c.client.manager.thread.bind fun thread =>
    if t.underway.isNone ∧ Ensemble.isUnasked c.client.manager thread stimulus = false then
      (thread.loop.react? now stimulus).map fun (loop, effect) =>
        { t with underway := some (⟨now, thread.loop, stimulus, loop⟩, effect) }
    else none
  | .carryOut => t.underway.bind fun (d, effect) => t.life.communicator?.bind fun c =>
    c.client.manager.thread.map fun thread =>
      { t.withClient ((c.client.withThread { thread with loop := d.after }).apply now effect) with
        underway := none
        deeds := t.deeds ++ [d] }

end Tenant

/-! ## Subscribing with nothing in between -/

namespace Change

/-- How many steps a call has still to take. -/
def ahead : Change → Nat
  | .add .. | .remove _ => 3
  | .entered .. | .takenOut .. => 2
  | .addRefused .. | .removeRefused .. => 1
  | .finished _ => 0

theorem ahead_step {σ : Type} {link : LinkAnswers σ} {change next : Change} {p p' : Registry × σ}
    (h : change.step link p = (next, p')) : next.ahead ≤ change.ahead - 1 := by
  obtain rfl : (change.step link p).1 = next := congrArg Prod.fst h
  cases change with
  | add =>
    simp only [step]
    split
    · exact Nat.zero_le _
    · split <;> exact Nat.le_of_ble_eq_true rfl
  | remove | entered | takenOut =>
    simp only [step]
    split <;> exact Nat.le_of_ble_eq_true rfl
  | _ => exact Nat.le_refl _

theorem finished_of_ahead {change : Change} (ended : change.ahead = 0) :
    ∃ result, change = .finished result := by
  cases change with
  | finished result => exact ⟨result, rfl⟩
  | _ => cases ended

end Change

namespace Tenant

variable {t : Tenant} {now : Instant} {c : Communicator} {s : Surroundings} {e : Engine}

theorem add_of_step {change next : Change} {registry : Registry} {link : Link}
    {accepted : List Request} (going : ∀ result, change ≠ .finished result)
    (h : change.step (Traffic.noting (Client.answers .caller))
      (c.client.registry, c.client.manager.link, t.accepted) = (next, registry, link, accepted)) :
    t.add c change =
      { t with life := .subscribing (c.having registry link), adding := some next, accepted } := by
  cases change with
  | finished result => exact absurd rfl (going result)
  | _ => simp only [add, h]

/-- A step that neither takes a handle nor gives one back. -/
def Proceeds (s : Surroundings) (now : Instant) (e : Engine) (t t' : Tenant) : Prop :=
  t.advance? s now e = some (t', e)

open Relation (ReflTransGen)

/-- To note what the link accepts makes no difference to the call. -/
theorem proceeds_change {r registry : Registry} {l link : Link} {change next : Change}
    (life : t.life = .subscribing (c.having r l)) (adding : t.adding = some change)
    (h : change.step (Client.answers .caller) (r, l) = (next, registry, link)) :
    ∃ t', ReflTransGen (Proceeds s now e) t t' ∧
      t'.life = .subscribing (c.having registry link) ∧ t'.adding = some next := by
  by_cases ended : ∃ result, change = .finished result
  · obtain ⟨result, rfl⟩ := ended
    cases h
    exact ⟨t, .refl, life, adding⟩
  · have going (result : Except Fault Unit) : change ≠ .finished result :=
      fun same => ended ⟨result, same⟩
    obtain ⟨accepted, noted⟩ :=
      Traffic.step_noting (Client.answers .caller) change r l t.accepted
    rw [h] at noted
    refine ⟨t.add (c.having r l) change, .single ?_, ?_⟩
    · simp only [Proceeds, advance?, life, adding]
    · rw [add_of_step going noted]
      exact ⟨rfl, rfl⟩

/-- The step that a life takes to subscribe is what the steps of the call come to when nothing comes
between them. -/
theorem proceeds_subscribing (life : t.life = .subscribing c) (begun : t.adding = t.life.adding?) :
    ∃ t', ReflTransGen (Proceeds s now e) t t' ∧
      (Life.subscribing c).step? s now e = some (t'.life, e, []) := by
  have adding : t.adding = some (.add c.config.client.subscribeTopic .usual (.queue .empty)) := by
    rw [begun, life]
    rfl
  have start : t.life = .subscribing (c.having c.client.registry c.client.manager.link) := life
  rcases h₁ : (Change.add c.config.client.subscribeTopic .usual (.queue .empty)).step
    (Client.answers .caller) (c.client.registry, c.client.manager.link) with ⟨c₁, r₁, l₁⟩
  rcases h₂ : c₁.step (Client.answers .caller) (r₁, l₁) with ⟨c₂, r₂, l₂⟩
  rcases h₃ : c₂.step (Client.answers .caller) (r₂, l₂) with ⟨c₃, r₃, l₃⟩
  obtain ⟨t₁, first, life₁, adding₁⟩ := proceeds_change start adding h₁
  obtain ⟨t₂, second, life₂, adding₂⟩ := proceeds_change life₁ adding₁ h₂
  obtain ⟨t₃, third, life₃, adding₃⟩ := proceeds_change life₂ adding₂ h₃
  have ended : c₃.ahead = 0 := by
    have two : c₁.ahead ≤ 2 := Change.ahead_step h₁
    have one := Change.ahead_step h₂
    have none := Change.ahead_step h₃
    omega
  obtain ⟨result, rfl⟩ := Change.finished_of_ahead ended
  have last : Proceeds s now e t₃ (t₃.become ((c.having r₃ l₃).added result)) := by
    simp only [Proceeds, advance?, life₃, adding₃, add]
  refine ⟨_, ((first.trans second).trans third).tail last, ?_⟩
  simp only [Life.step?, Communicator.add, Client.change, Change.run, h₁, h₂, h₃]
  cases result <;> rfl

end Tenant

end Courier
