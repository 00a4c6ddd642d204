import Mathlib.Tactic.SplitIfs
import Courier.Communicator
import Courier.Proofs.Session.Ensemble

/-!
# The same request on either side

What is asked of a communicator in a callback goes another way than what a caller asks for: the
network thread parks the request, where the caller's goes into the channel and the client library
looks at it first. The checks that come before either way leave nothing for them to disagree on,
whatever the text of the topic or of the filter.
-/

namespace Courier

/-- What can be asked of a communicator. -/
inductive Ask where
  | send (message topic : String) (guarantee : Guarantee)
  | add (filter : String) (guarantee : Guarantee) (delivery : Delivery)
  | remove (filter : String)

/-- Whether a request names a topic or a filter that passes its check. Any text can be given up. -/
def Request.IsWellFormed : Request → Prop
  | .publish topic .. => checkTopic topic = .ok ()
  | .subscribe filter _ => checkFilter filter = .ok ()
  | .unsubscribe _ => True
  | .disconnect => False

namespace Ask

/-- The request that it makes of the broker. -/
def request : Ask → Request
  | .send message topic guarantee => .publish topic (Utf8.encode message) guarantee false
  | .add filter guarantee _ => .subscribe filter guarantee
  | .remove filter => .unsubscribe filter

/-- What comes before the request: the checks, and the change to the registry. -/
def prepare (r : Registry) : Ask → Except Fault Registry
  | .send _ topic _ => (checkTopic topic).map fun _ => r
  | .add filter _ delivery => (checkFilter filter).bind fun _ => r.enter filter delivery
  | .remove filter => (r.takeOut filter).map (·.2)

/-- What is asked for, over any link to a broker. -/
def through {σ : Type} (link : LinkAnswers σ) (r : Registry) (l : σ) :
    Ask → Except Fault Unit × Registry × σ
  | .send message topic guarantee =>
    match checkTopic topic with
    | .error fault => (.error fault, r, l)
    | .ok () =>
      let (result, l) := link (.publish topic (Utf8.encode message) guarantee false) l
      (result, r, l)
  | .add filter guarantee delivery => r.add link filter guarantee delivery l
  | .remove filter => r.remove link filter l

/-- What comes of it: the answer, the registry, and what was requested of the broker. -/
structure Outcome where
  result : Except Fault Unit
  registry : Registry
  requests : List Request

/-- What comes of it where the broker's side takes what is well-formed. -/
def outcome (q : Ask) (r : Registry) : Outcome :=
  match q.prepare r with
  | .ok registry => ⟨.ok (), registry, [q.request]⟩
  | .error fault => ⟨.error fault, r, []⟩

variable {σ : Type} {link : LinkAnswers σ} {q : Ask} {r registry : Registry} {l l' : σ}

theorem outcome_of_ok (prepared : q.prepare r = .ok registry) :
    q.outcome r = ⟨.ok (), registry, [q.request]⟩ := by
  rw [outcome, prepared]

theorem outcome_of_error {fault : Fault} (refused : q.prepare r = .error fault) :
    q.outcome r = ⟨.error fault, r, []⟩ := by
  rw [outcome, refused]

/-- Nothing is requested if the checks fail. -/
theorem through_of_error {fault : Fault} (refused : q.prepare r = .error fault) :
    q.through link r l = (.error fault, r, l) := by
  cases q with
  | send message topic guarantee =>
    cases checked : checkTopic topic <;> simp_all [prepare, through, Except.map]
  | add filter guarantee delivery =>
    rw [prepare] at refused
    rw [through, Registry.add, Change.run, Change.step]
    cases checked : checkFilter filter with
    | error => simp_all [Except.bind, Change.step]
    | ok => simp_all [Except.bind, Change.step]
  | remove filter =>
    rw [prepare] at refused
    rw [through, Registry.remove, Change.run, Change.step]
    cases taken : r.takeOut filter <;> simp_all [Except.map, Change.step]

/-- After the checks the answer is that of the link. -/
theorem through_of_ok (prepared : q.prepare r = .ok registry)
    (accepted : link q.request l = (.ok (), l')) :
    q.through link r l = (.ok (), registry, l') := by
  cases q with
  | send message topic guarantee =>
    cases checked : checkTopic topic <;> simp_all [prepare, request, through, Except.map]
  | add filter guarantee delivery =>
    rw [prepare] at prepared
    rw [through, Registry.add, Change.run, Change.step]
    cases checked : checkFilter filter <;> simp_all [request, Except.bind, Change.step]
  | remove filter =>
    rw [prepare] at prepared
    rw [through, Registry.remove, Change.run, Change.step]
    cases taken : r.takeOut filter <;> simp_all [request, Except.map, Change.step]

/-- What passes the checks asks for nothing malformed. -/
theorem wellFormed_of_prepare (prepared : q.prepare r = .ok registry) : q.request.IsWellFormed := by
  cases q with
  | send message topic guarantee =>
    cases checked : checkTopic topic with
    | ok => exact checked
    | error => simp [prepare, checked, Except.map] at prepared
  | add filter guarantee delivery =>
    cases checked : checkFilter filter with
    | ok => exact checked
    | error => simp [prepare, checked, Except.bind] at prepared
  | remove filter => trivial

end Ask

/-! ## The ways of a request -/

theorem Link.hasWildcard_of_checkTopic {topic : String} (checked : checkTopic topic = .ok ()) :
    Link.hasWildcard topic = false := by
  have plain : '+' ∉ topic.toList ∧ '#' ∉ topic.toList := by
    rw [checkTopic, topicFlaw?] at checked
    split_ifs at checked with empty wild
    exact not_or.mp wild
  rw [Link.hasWildcard, List.any_eq_false]
  intro c there
  have plus : c ≠ '+' := fun same => plain.1 (same ▸ there)
  have hash : c ≠ '#' := fun same => plain.2 (same ▸ there)
  simp [plus, hash]

namespace Link

/-- An open channel with room, where the client library decides what it lets in. -/
def offer (admits : Request → Bool) : LinkAnswers Link := fun request l =>
  if admits request then l.enqueue request else (.error (refusal request), l)

/-- A client library that publishes on every topic without wildcards and on no other, subscribes
to every well-formed filter, and gives up any. What it says to other filters is left open. -/
structure Admits (admits : Request → Bool) : Prop where
  publish : ∀ topic payload guarantee retain,
    admits (.publish topic payload guarantee retain) = !hasWildcard topic
  subscribe : ∀ filter guarantee, checkFilter filter = .ok () →
    admits (.subscribe filter guarantee) = true
  unsubscribe : ∀ filter, admits (.unsubscribe filter) = true

/-- A client library that subscribes to no other filter either. -/
def strict : Request → Bool
  | .publish topic .. => !hasWildcard topic
  | .subscribe filter _ => (filterFlaw? filter).isNone
  | _ => true

theorem admits_strict : Admits strict where
  publish _ _ _ _ := rfl
  subscribe filter _ checked := by
    rw [checkFilter] at checked
    cases flaw : filterFlaw? filter with
    | none => simp [strict, flaw]
    | some => simp [flaw] at checked
  unsubscribe _ := rfl

variable {l : Link} {request : Request} {admits : Request → Bool}

theorem offer_of_wellFormed (library : Admits admits) (sound : request.IsWellFormed) :
    offer admits request l = l.enqueue request := by
  refine if_pos ?_
  cases request with
  | publish topic payload guarantee retain =>
    rw [library.publish, hasWildcard_of_checkTopic sound]
    rfl
  | subscribe filter guarantee => exact library.subscribe filter guarantee sound
  | unsubscribe filter => exact library.unsubscribe filter
  | disconnect => exact sound.elim

theorem request?_caller_of_wellFormed (isOpen : l.isOpen) (room : l.queued.length < l.capacity)
    (sound : request.IsWellFormed) : l.request? .caller request = some (l.enqueue request) := by
  cases request with
  | publish topic =>
    have plain := hasWildcard_of_checkTopic sound
    simp [request?, send?, isOpen, room, plain]
  | subscribe | unsubscribe => simp [request?, send?, isOpen, room]
  | disconnect => exact sound.elim

theorem request?_network_of_wellFormed (sound : request.IsWellFormed) :
    l.request? .network request = some (l.park request) := by
  cases request with
  | publish topic =>
    have checked : checkTopic topic = .ok () := sound
    simp [request?, checked]
  | subscribe | unsubscribe => rfl
  | disconnect => exact sound.elim

/-- A link that has come to hold more requests, made on one of the two sides. -/
def joined (side : Side) (requests : List Request) (l : Link) : Link :=
  match side with
  | .caller => { l with queued := l.queued ++ requests }
  | .network => { l with parked := l.parked ++ requests }

@[simp]
theorem joined_nil (side : Side) (l : Link) : l.joined side [] = l := by
  cases side <;> simp [joined]

end Link

/-- Over a link that takes what is well-formed, what is asked comes to what is expected. -/
theorem Ask.through_eq {q : Ask} {r : Registry} {l : Link} {side : Side} {link : LinkAnswers Link}
    (takes : q.request.IsWellFormed → link q.request l = (.ok (), l.joined side [q.request])) :
    q.through link r l =
      ((q.outcome r).result, (q.outcome r).registry, l.joined side (q.outcome r).requests) := by
  cases prepared : q.prepare r with
  | error fault =>
    rw [outcome_of_error prepared, through_of_error prepared, Link.joined_nil]
  | ok registry =>
    rw [outcome_of_ok prepared, through_of_ok prepared (takes (wellFormed_of_prepare prepared))]

namespace Client

/-- What is asked of a communicator, asked of its client on one of the two sides. -/
def ask (side : Side) (c : Client) : Ask → Except Fault Unit × Client
  | .send message topic guarantee => c.publish side topic (Utf8.encode message) guarantee
  | .add filter guarantee delivery => c.change side (.add filter guarantee delivery)
  | .remove filter => c.change side (.remove filter)

/-- Whether an answer and the client after it are what is expected, with such a link. -/
structure Gives (given : Except Fault Unit × Client) (expected : Ask.Outcome) (link : Link) :
    Prop where
  result : given.1 = expected.result
  registry : given.2.registry = expected.registry
  link : given.2.manager.link = link

theorem gives_through {side : Side} {c : Client} {q : Ask} {result : Except Fault Unit}
    {registry : Registry} {link : Link}
    (through : q.through (answers side) c.registry c.manager.link = (result, registry, link))
    (requests : List Request) : Gives (c.ask side q) ⟨result, registry, requests⟩ link := by
  cases q with
  | send message topic guarantee =>
    rw [Ask.through] at through
    rw [ask, publish]
    cases checked : checkTopic topic with
    | error fault =>
      rw [checked] at through
      cases through
      exact ⟨rfl, rfl, rfl⟩
    | ok =>
      rw [checked] at through
      obtain ⟨rfl, rfl, rfl⟩ := through
      dsimp only
      split <;> rename_i answer <;> exact ⟨answer.symm, rfl, rfl⟩
  | add filter guarantee delivery =>
    rw [Ask.through, Registry.add] at through
    simp only [ask, change, through]
    exact ⟨rfl, rfl, rfl⟩
  | remove filter =>
    rw [Ask.through, Registry.remove] at through
    simp only [ask, change, through]
    exact ⟨rfl, rfl, rfl⟩

end Client

namespace Communicator

/-- What a caller asks of a communicator. -/
def ask (c : Communicator) : Ask → Except Fault Unit × Communicator
  | .send message topic guarantee => c.sendTo message topic guarantee
  | .add filter guarantee delivery => c.add filter guarantee delivery
  | .remove filter => c.remove filter

theorem ask_eq (c : Communicator) (q : Ask) : c.ask q =
    ((c.client.ask .caller q).1, { c with client := (c.client.ask .caller q).2 }) := by
  cases q <;> rfl

/-- What is asked of a communicator comes to the same on both sides: the same answer, the same
registry, and the same request, in the channel or parked. So it does with any client library that
takes what is well-formed. -/
theorem same_on_both_sides (c : Communicator) (q : Ask)
    (isOpen : c.client.manager.link.isOpen)
    (room : c.client.manager.link.queued.length < c.client.manager.link.capacity)
    {admits : Request → Bool} (library : Link.Admits admits) :
    let link := c.client.manager.link
    let expected := q.outcome c.client.registry
    Client.Gives ((c.ask q).1, (c.ask q).2.client) expected
      (link.joined .caller expected.requests) ∧
    Client.Gives (c.client.ask .network q) expected (link.joined .network expected.requests) ∧
    q.through (Link.offer admits) c.client.registry link =
      (expected.result, expected.registry, link.joined .caller expected.requests) := by
  intro link expected
  rw [c.ask_eq]
  refine ⟨Client.gives_through ?_ expected.requests, Client.gives_through ?_ expected.requests, ?_⟩
  · exact Ask.through_eq fun sound => by
      rw [Client.answers, Link.request?_caller_of_wellFormed isOpen room sound]
      rfl
  · exact Ask.through_eq fun sound => by
      rw [Client.answers, Link.request?_network_of_wellFormed sound]
      rfl
  · exact Ask.through_eq fun sound => Link.offer_of_wellFormed library sound

/-- A communicator of which nothing has been asked. -/
def unasked : Communicator where
  config := { client := { subscribeTopic := "a", publishTopic := "a" }, broker := {} }
  client := .ofManager (Ensemble.newManager .usual) none
  handle := ⟨0⟩

theorem same_on_both_sides_wildcards :
    let q := Ask.add "a/+/#" .atLeastOnce (.queue .empty)
    let expected : Ask.Outcome :=
      ⟨.ok (), ⟨[("a/+/#", 0)], [⟨"a/+/#", .queue .empty⟩]⟩, [.subscribe "a/+/#" .atLeastOnce]⟩
    Link.Admits Link.strict ∧
    Client.Gives ((unasked.ask q).1, (unasked.ask q).2.client) expected
      ⟨64, [.subscribe "a/+/#" .atLeastOnce], true, []⟩ ∧
    Client.Gives (unasked.client.ask .network q) expected
      ⟨64, [], true, [.subscribe "a/+/#" .atLeastOnce]⟩ := by
  intro q expected
  have same : q.outcome unasked.client.registry = expected := rfl
  obtain ⟨caller, network, -⟩ :=
    same_on_both_sides unasked q rfl (by decide) Link.admits_strict
  rw [same] at caller network
  exact ⟨Link.admits_strict, caller, network⟩

end Communicator

end Courier
