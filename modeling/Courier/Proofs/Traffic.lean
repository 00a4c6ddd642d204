import Courier.Proofs.Registry
import Courier.Proofs.Run
import Courier.Registry.Change

/-!
# Many calls at work on one registry

Any number of threads add and remove subscriptions, route messages and wait for them, all on one
registry. A move is one atomic step of one of them: what is done under a lock, a request to the
link, or the hand-over of a message. The link may change on its own between any two moves, and so
may the order in which the table lists its entries. The history is what an observer would note; no
move depends on it.
-/

namespace Courier

/-- The filter that a call works on until it is over. -/
def Change.filter? : Change → Option String
  | .add filter .. | .entered filter _ | .addRefused filter _ => some filter
  | .remove filter | .takenOut filter _ | .removeRefused filter .. => some filter
  | .finished _ => none

/-- Whether no message waits yet. -/
def Delivery.isNew : Delivery → Bool
  | .queue box => box = .empty
  | .callback _ => true

/-- Whether an event is a sleeper that runs. -/
def Mailbox.Event.isWaking : Mailbox.Event → Bool
  | .resume _ | .stir _ | .expire _ => true
  | .push .. | .arrive _ => false

/-- An event at the mailbox of a subscription; where a callback takes the messages there is none. -/
def Subscription.mail? (s : Subscription) (now : Instant) (e : Mailbox.Event) :
    Option (Subscription × List Mailbox.Answer) :=
  match s.delivery with
  | .queue box =>
    (box.step? now e).map fun (box, answers) => ({ s with delivery := .queue box }, answers)
  | .callback _ => none

/-- Hands over a message and lets a sleeper of choice know. -/
def Subscription.accept (s : Subscription) (m : Message) (chosen : Nat) : Subscription :=
  match s.delivery with
  | .queue box => { s with delivery := .queue (box.push m chosen) }
  | .callback _ => s

theorem Subscription.accept_zero (s : Subscription) (m : Message) :
    s.accept m 0 = (s.deliver m).1 := by
  obtain ⟨f, box | handler⟩ := s <;> rfl

namespace Traffic

/-- A call to add or to remove a subscription. -/
structure Call where
  asked : Change
  stage : Change
  /-- The subscription that it entered or took out. -/
  entry : Option SubscriptionId

/-- What a refused call did to its filter, and what the filter named just before. -/
inductive Rollback where
  | freed (filter : String) (named : Option SubscriptionId)
  | broughtBack (filter : String) (id : SubscriptionId) (named : Option SubscriptionId)
  deriving DecidableEq

/-- What became of a message at the table, and the filters in use then. -/
structure Routing where
  message : Message
  filters : List String
  target : Option SubscriptionId
  deriving DecidableEq

/-- All that was noted, each list with the latest last. -/
structure History where
  /-- The requests that the link accepted. -/
  accepted : List Request
  rollbacks : List Rollback
  routed : List Routing
  delivered : List (SubscriptionId × Message)
  /-- The answers of mailboxes to those who wait. -/
  answers : List (SubscriptionId × Mailbox.Answer)

end Traffic

structure Traffic (σ : Type) where
  registry : Registry
  link : σ
  /-- Every call that was ever made. -/
  calls : List Traffic.Call
  /-- Messages on their way from the table to a subscription. -/
  matched : List (SubscriptionId × Message)
  /-- How many calls have asked a mailbox for a message. -/
  receivers : Nat
  history : Traffic.History

namespace Traffic

variable {σ : Type}

def start (link : σ) : Traffic σ := ⟨.empty, link, [], [], 0, ⟨[], [], [], [], []⟩⟩

/-- A link that also keeps what it accepted. -/
def noting (link : LinkAnswers σ) : LinkAnswers (σ × List Request) := fun request (l, accepted) =>
  match link request l with
  | (.ok (), l) => (.ok (), l, accepted ++ [request])
  | (.error fault, l) => (.error fault, l, accepted)

/-- To note what a link accepts changes nothing about a call. -/
theorem step_noting (link : LinkAnswers σ) (c : Change) (r : Registry) (l : σ)
    (accepted : List Request) : ∃ accepted',
      c.step (noting link) (r, l, accepted) =
        ((c.step link (r, l)).1, (c.step link (r, l)).2.1, (c.step link (r, l)).2.2,
          accepted') := by
  cases c with
  | entered f g =>
    rcases answer : link (.subscribe f g) l with ⟨_ | _, l'⟩ <;>
      exact ⟨_, by simp only [Change.step, noting, answer]; rfl⟩
  | takenOut f id =>
    rcases answer : link (.unsubscribe f) l with ⟨_ | _, l'⟩ <;>
      exact ⟨_, by simp only [Change.step, noting, answer]; rfl⟩
  | add f g d =>
    refine ⟨accepted, ?_⟩
    simp only [Change.step]
    cases checkFilter f with
    | error fault => rfl
    | ok done => cases r.enter f d <;> rfl
  | remove f =>
    refine ⟨accepted, ?_⟩
    simp only [Change.step]
    cases r.takeOut f <;> rfl
  | _ => exact ⟨accepted, rfl⟩

/-- The subscription that a call enters or takes out as it comes to a stage. -/
def gained? (before : Registry) : Change → Option SubscriptionId
  | .entered .. => some before.made.length
  | .takenOut _ id => some id
  | _ => none

/-- What a call undoes in its next step. -/
def rollback? (before : Registry) : Change → Option Rollback
  | .addRefused filter _ => some (.freed filter (before.find? filter))
  | .removeRefused filter id _ => some (.broughtBack filter id (before.find? filter))
  | _ => none

def History.note (h : History) : Option Rollback → History
  | none => h
  | some rollback => { h with rollbacks := h.rollbacks ++ [rollback] }

def begin (s : Traffic σ) (asked : Change) : Traffic σ :=
  { s with calls := s.calls ++ [⟨asked, asked, none⟩] }

/-- The next step of a call that is not over. -/
def advance (link : LinkAnswers σ) (s : Traffic σ) (i : Nat) : Option (Traffic σ) :=
  match s.calls[i]? with
  | none => none
  | some c =>
    if c.stage.filter?.isNone then none
    else
      let (stage, registry, link, accepted) :=
        c.stage.step (noting link) (s.registry, s.link, s.history.accepted)
      some { s with
        registry, link
        calls := s.calls.set i ⟨c.asked, stage, (gained? s.registry stage).or c.entry⟩
        history := { s.history with accepted }.note (rollback? s.registry c.stage) }

/-- Looks up where a message goes. -/
def route (s : Traffic σ) (m : Message) : Traffic σ :=
  let target := s.registry.target? m.topic
  { s with
    matched := s.matched ++ (target.map (·, m)).toList
    history.routed := s.history.routed ++ [⟨m, s.registry.table.map (·.1), target⟩] }

/-- Hands over one of the messages on their way. -/
def handOver (s : Traffic σ) (place chosen : Nat) : Option (Traffic σ) :=
  match s.matched[place]? with
  | none => none
  | some (id, m) =>
    some { s with
      registry.made := s.registry.made.modify id fun sub => sub.accept m chosen
      matched := s.matched.eraseIdx place
      history.delivered := s.history.delivered ++ [(id, m)] }

/-- An event at the mailbox of a subscription. -/
def mail (s : Traffic σ) (id : SubscriptionId) (now : Instant) (e : Mailbox.Event) :
    Option (Traffic σ) := do
  let sub ← s.registry.made[id]?
  let (sub, answers) ← sub.mail? now e
  return { s with
    registry.made := s.registry.made.set id sub
    history.answers := s.history.answers ++ answers.map (id, ·) }

inductive Move (σ : Type) where
  | add (filter : String) (guarantee : Guarantee) (delivery : Delivery)
  | remove (filter : String)
  /-- The next step of the call in this place. -/
  | advance (call : Nat)
  | relink (link : σ)
  | shuffle (table : List (String × SubscriptionId))
  | route (m : Message)
  | handOver (place chosen : Nat)
  /-- A call asks a subscription for its next message. -/
  | receive (id : SubscriptionId) (now : Instant) (timeout : Option Span)
  | wake (id : SubscriptionId) (now : Instant) (e : Mailbox.Event)

/-- The state after a move, if the move can happen. -/
def step? (link : LinkAnswers σ) (s : Traffic σ) : Move σ → Option (Traffic σ)
  | .add filter guarantee delivery =>
    if delivery.isNew then some (s.begin (.add filter guarantee delivery)) else none
  | .remove filter => some (s.begin (.remove filter))
  | .advance i => s.advance link i
  | .relink l => some { s with link := l }
  | .shuffle table =>
    if table.isPerm s.registry.table then some { s with registry.table := table } else none
  | .route m => some (s.route m)
  | .handOver place chosen => s.handOver place chosen
  | .receive id now timeout =>
    { s with receivers := s.receivers + 1 }.mail id now
      (.arrive ⟨s.receivers, timeout >>= now.after?⟩)
  | .wake id now e => if e.isWaking then s.mail id now e else none

def run? (link : LinkAnswers σ) (moves : List (Move σ)) (s : Traffic σ) : Option (Traffic σ) :=
  moves.foldlM (step? link) s

/-- A link with its answers laid down in advance; after the last it accepts everything. -/
def scripted : LinkAnswers (List (Except Fault Unit))
  | _, [] => (.ok (), [])
  | _, answer :: rest => (answer, rest)

/-- The state with another call in a place. -/
def put (s : Traffic σ) (i : Nat) (asked stage : Change) (entry : Option SubscriptionId) :
    Traffic σ :=
  { s with calls := s.calls.set i ⟨asked, stage, entry⟩ }

@[simp] theorem put_registry (s : Traffic σ) (i : Nat) (asked stage : Change)
    (entry : Option SubscriptionId) :
    (s.put i asked stage entry).registry = s.registry := rfl

@[simp] theorem put_history (s : Traffic σ) (i : Nat) (asked stage : Change)
    (entry : Option SubscriptionId) :
    (s.put i asked stage entry).history = s.history := rfl

/-- All that the next step of a call may do, by the stage that the call is at. -/
inductive Turn (s : Traffic σ) (i : Nat) (asked : Change) (entry : Option SubscriptionId) :
    Change → Traffic σ → Prop where
  | turnedAway (f : String) (g : Guarantee) (d : Delivery) (fault : Fault)
      (reason : filterFlaw? f = none → (s.registry.find? f).isSome) :
    Turn s i asked entry (.add f g d) (s.put i asked (.finished (.error fault)) entry)
  | entered (f : String) (g : Guarantee) (d : Delivery) (valid : filterFlaw? f = none)
      (free : s.registry.find? f = none) :
    Turn s i asked entry (.add f g d)
      { s.put i asked (.entered f g) (some s.registry.made.length) with
        registry :=
          ⟨s.registry.table ++ [(f, s.registry.made.length)], s.registry.made ++ [⟨f, d⟩]⟩ }
  | subscribed (f : String) (g : Guarantee) (link : σ) :
    Turn s i asked entry (.entered f g)
      { s.put i asked (.finished (.ok ())) entry with
        link, history.accepted := s.history.accepted ++ [.subscribe f g] }
  | refusedAdd (f : String) (g : Guarantee) (link : σ) (fault : Fault) :
    Turn s i asked entry (.entered f g) { s.put i asked (.addRefused f fault) entry with link }
  | freed (f : String) (fault : Fault) :
    Turn s i asked entry (.addRefused f fault)
      { s.put i asked (.finished (.error fault)) entry with
        registry := s.registry.erase f
        history.rollbacks := s.history.rollbacks ++ [.freed f (s.registry.find? f)] }
  | notThere (f : String) (fault : Fault) (absent : s.registry.find? f = none) :
    Turn s i asked entry (.remove f) (s.put i asked (.finished (.error fault)) entry)
  | takenOut (f : String) (id : SubscriptionId) (found : s.registry.find? f = some id) :
    Turn s i asked entry (.remove f)
      { s.put i asked (.takenOut f id) (some id) with registry := s.registry.erase f }
  | unsubscribed (f : String) (id : SubscriptionId) (link : σ) :
    Turn s i asked entry (.takenOut f id)
      { s.put i asked (.finished (.ok ())) entry with
        link, history.accepted := s.history.accepted ++ [.unsubscribe f] }
  | refusedRemove (f : String) (id : SubscriptionId) (link : σ) (fault : Fault) :
    Turn s i asked entry (.takenOut f id)
      { s.put i asked (.removeRefused f id fault) entry with link }
  | broughtBack (f : String) (id : SubscriptionId) (fault : Fault) :
    Turn s i asked entry (.removeRefused f id fault)
      { s.put i asked (.finished (.error fault)) entry with
        registry := s.registry.putBack f id
        history.rollbacks := s.history.rollbacks ++ [.broughtBack f id (s.registry.find? f)] }

theorem advance_turn {link : LinkAnswers σ} {s s' : Traffic σ} {i : Nat}
    (h : s.advance link i = some s') :
    ∃ asked stage entry, s.calls[i]? = some ⟨asked, stage, entry⟩ ∧
      Turn s i asked entry stage s' := by
  rw [advance] at h
  split at h
  · cases h
  rename_i c hc
  split at h
  · cases h
  obtain ⟨asked, stage, entry⟩ := c
  refine ⟨asked, stage, entry, hc, ?_⟩
  have eq := Option.some.inj h
  clear h
  cases stage with
  | add f g d =>
    cases valid : filterFlaw? f with
    | some flaw =>
      simp only [checkFilter, valid] at eq
      exact eq ▸ .turnedAway f g d _ (by simp [valid])
    | none =>
      cases entering : s.registry.enter f d with
      | error fault =>
        simp only [checkFilter, valid, entering] at eq
        refine eq ▸ .turnedAway f g d fault fun _ => ?_
        by_cases taken : s.registry.contains f
        · exact taken
        · simp [Registry.enter, taken] at entering
      | ok r =>
        obtain ⟨free, rfl⟩ := Registry.enter_eq_ok entering
        simp only [checkFilter, valid, entering] at eq
        exact eq ▸ .entered f g d valid free
  | entered f g =>
    rcases answer : link (.subscribe f g) s.link with ⟨_ | _, l⟩
    · simp only [noting, answer] at eq
      exact eq ▸ .refusedAdd f g l _
    · simp only [noting, answer] at eq
      exact eq ▸ .subscribed f g l
  | addRefused f fault => exact eq ▸ .freed f fault
  | remove f =>
    cases taking : s.registry.takeOut f with
    | error fault =>
      simp only [taking] at eq
      exact eq ▸ .notThere f fault (Registry.takeOut_eq_error taking)
    | ok taken =>
      obtain ⟨id, r⟩ := taken
      obtain ⟨found, rfl⟩ := Registry.takeOut_eq_ok taking
      simp only [taking] at eq
      exact eq ▸ .takenOut f id found
  | takenOut f id =>
    rcases answer : link (.unsubscribe f) s.link with ⟨_ | _, l⟩
    · simp only [noting, answer] at eq
      exact eq ▸ .refusedRemove f id l _
    · simp only [noting, answer] at eq
      exact eq ▸ .unsubscribed f id l
  | removeRefused f id fault => exact eq ▸ .broughtBack f id fault
  | finished result =>
    rename_i running
    exact absurd rfl running

end Traffic

end Courier
