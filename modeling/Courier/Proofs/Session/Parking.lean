import Courier.Proofs.Session.Outflow

/-!
# What callbacks ask for, on its way out

The requests that callbacks make on the network thread, over the whole life of the thread: they are
parked, and the loop moves one of them at a time to the sending side, at the head of a round and
only in a session. Calls make requests of their own meanwhile, and a poll may take any number of
requests off the front of the sending side and of the channel. Nothing is lost, doubled or
overtaken on the way, and none of it ever stands in the channel.
-/

namespace Courier

structure Parking where
  loop : Loop
  link : Link
  transport : Transport
  phase : Outflow.Phase
  /-- What the thread did, the latest last. -/
  deeds : List Loop.Deed
  /-- What callbacks asked for and were told, the latest last. -/
  asked : List (Request × Except Fault Unit)
  /-- What calls have put into the channel. -/
  called : List Request
  /-- What was moved to the sending side. -/
  released : List Request
  /-- What polls took from there. -/
  taken : List Request

namespace Parking

/-- A thread that begins, with what there is to be sent already. -/
def start (policy : RetryPolicy) (started : Instant) (link : Link) (transport : Transport) :
    Parking :=
  ⟨.fresh policy started, link, transport, .head, [], [], [], [], []⟩

inductive Move where
  /-- A call makes a request. -/
  | call (request : Request)
  /-- The head of a round. -/
  | release
  /-- A poll takes so many requests off the sending side and the channel; afterwards a number may
  not be free. -/
  | flow (sent drawn : Nat) (collision : Bool)
  | react (now : Instant) (stimulus : Stimulus)
  /-- A callback makes a request. -/
  | order (request : Request)
  | handled

/-- Whether a poll is under way. -/
def IsPolling (s : Parking) : Prop :=
  s.loop.stage = .draining ∨ s.loop.stage = .polling ∧ s.phase = .selecting

instance (s : Parking) : Decidable s.IsPolling := inferInstanceAs (Decidable (_ ∨ _))

def step? (s : Parking) : Move → Option Parking
  | .call request => (s.link.request? .caller request).map fun
    | (.ok (), link) => { s with link, called := s.called ++ [request] }
    | (.error _, link) => { s with link }
  | .release =>
    if s.loop.stage = .polling ∧ s.phase = .head then
      let (link, transport) :=
        if s.loop.connected then s.link.release s.transport else (s.link, s.transport)
      some { s with
        link, transport, phase := .selecting
        released := s.released ++ transport.pending.drop s.transport.pending.length }
    else none
  | .flow sent drawn collision =>
    if s.IsPolling then
      some { s with
        transport := ⟨s.transport.pending.drop sent, collision⟩
        taken := s.taken ++ s.transport.pending.take sent
        link.queued := s.link.queued.drop drawn }
    else none
  | .react now stimulus =>
    if s.loop.stage = .polling → s.phase = .selecting then
      (s.loop.react? now stimulus).map fun (loop, effect) =>
        { s with
          loop, phase := Outflow.phaseAfter effect
          link := if loop.stage = .gone then s.link.close else s.link
          deeds := s.deeds ++ [⟨now, s.loop, stimulus, loop⟩] }
    else none
  | .order request =>
    if s.phase = .handling ∧ request ≠ .disconnect then
      (s.link.request? .network request).map fun (answer, link) =>
        { s with link, asked := s.asked ++ [(request, answer)] }
    else none
  | .handled => if s.phase = .handling then some { s with phase := .head } else none

def run? (moves : List Move) (s : Parking) : Option Parking := moves.foldlM step? s

/-- What callbacks asked for and was accepted, in the order in which it was asked for. -/
def accepted (s : Parking) : List Request :=
  s.asked.filterMap fun
    | (request, .ok ()) => some request
    | (_, .error _) => none

/-- Everything that a move can do. -/
inductive Advances (s : Parking) : Move → Parking → Prop where
  | accept (request : Request) :
      Advances s (.call request) { s with
        link.queued := s.link.queued ++ [request], called := s.called ++ [request] }
  | refuse (request : Request) : Advances s (.call request) s
  | release {request : Request} {rest : List Request} (connected : s.loop.connected = true)
      (free : s.transport = ⟨[], false⟩) (parked : s.link.parked = request :: rest) :
      Advances s .release { s with
        link.parked := rest, transport := ⟨[request], false⟩, phase := .selecting
        released := s.released ++ [request] }
  | goOn : Advances s .release { s with phase := .selecting }
  | flow (sent drawn : Nat) (collision : Bool) :
      Advances s (.flow sent drawn collision) { s with
        transport := ⟨s.transport.pending.drop sent, collision⟩
        taken := s.taken ++ s.transport.pending.take sent
        link.queued := s.link.queued.drop drawn }
  | react {now : Instant} {stimulus : Stimulus} {loop : Loop} {effect : Effect}
      (phase : Outflow.Phase) {link : Link}
      (reacted : s.loop.react? now stimulus = some (loop, effect))
      (same : link = s.link ∨ link = s.link.close) :
      Advances s (.react now stimulus) { s with
        loop, link, phase, deeds := s.deeds ++ [⟨now, s.loop, stimulus, loop⟩] }
  | park {request : Request} (sound : request.verdict = .ok ()) :
      Advances s (.order request) { s with
        link.parked := s.link.parked ++ [request], asked := s.asked ++ [(request, .ok ())] }
  | reject {request : Request} {fault : Fault} (flawed : request.verdict = .error fault) :
      Advances s (.order request) { s with asked := s.asked ++ [(request, .error fault)] }
  | handled : Advances s .handled { s with phase := .head }

variable {s s' : Parking} {move : Move} {moves : List Move} {request : Request}

/-! ## What a move can do -/

/-- At the head of a round one request is moved, or none. -/
theorem advances_release (s : Parking) :
    let (link, transport) :=
      if s.loop.connected then s.link.release s.transport else (s.link, s.transport)
    s.Advances .release { s with
      link, transport, phase := .selecting
      released := s.released ++ transport.pending.drop s.transport.pending.length } := by
  have nothing : s.Advances .release { s with
      phase := .selecting
      released := s.released ++ s.transport.pending.drop s.transport.pending.length } := by
    simpa using .goOn
  by_cases connected : s.loop.connected = true
  · by_cases free : s.transport.pending = [] ∧ s.transport.collision = false
    · cases parked : s.link.parked with
      | nil => simpa [connected, Link.release, free, parked] using nothing
      | cons request rest =>
        have idle : s.transport = ⟨[], false⟩ := by
          rw [← free.1, ← free.2]
        have released := Advances.release connected idle parked
        simpa [connected, Link.release, idle, parked] using released
    · simpa [connected, Link.release, free] using nothing
  · simpa [connected] using nothing

theorem advances_of_step? (h : s.step? move = some s') : s.Advances move s' := by
  cases move with
  | call request =>
    obtain ⟨answer, sent, rfl⟩ := Option.map_eq_some_iff.mp h
    obtain rfl | ⟨fault, rfl⟩ := Link.answer_of_send? sent
    · exact .accept request
    · exact .refuse request
  | release =>
    simp only [step?] at h
    split at h
    · cases h
      exact advances_release s
    · cases h
  | flow sent drawn collision =>
    simp only [step?] at h
    split at h
    · cases h
      exact .flow sent drawn collision
    · cases h
  | react now stimulus =>
    simp only [step?] at h
    split at h
    · obtain ⟨⟨loop, effect⟩, reacted, rfl⟩ := Option.map_eq_some_iff.mp h
      refine .react _ reacted ?_
      split
      · exact .inr rfl
      · exact .inl rfl
    · cases h
  | order request =>
    simp only [step?] at h
    split at h
    · rename_i allowed
      obtain ⟨answer, told, rfl⟩ := Option.map_eq_some_iff.mp h
      rw [s.link.request?_network allowed.2] at told
      cases verdict : request.verdict with
      | ok =>
        rw [verdict] at told
        cases told
        exact .park verdict
      | error fault =>
        rw [verdict] at told
        cases told
        exact .reject verdict
    · cases h
  | handled =>
    simp only [step?] at h
    split at h
    · cases h
      exact .handled
    · cases h

/-! ## What holds at every moment -/

variable {policy : RetryPolicy} {started : Instant} {link : Link} {transport : Transport}

structure Sound (policy : RetryPolicy) (started : Instant) (link : Link) (transport : Transport)
    (s : Parking) : Prop where
  lived : Loop.Lived (.fresh policy started) s.loop s.deeds
  kept : s.released ++ s.link.parked = link.parked ++ s.accepted
  answered : ∀ a ∈ s.asked, a.2 = a.1.verdict
  inOrder : s.taken ++ s.transport.pending = transport.pending ++ s.released
  single : s.released = [] ∨ s.transport.pending.length ≤ 1
  channel : s.link.queued <:+ link.queued ++ s.called

theorem sound_start (policy : RetryPolicy) (started : Instant) (link : Link)
    (transport : Transport) :
    Sound policy started link transport (start policy started link transport) where
  lived := .begun
  kept := (List.append_nil _).symm
  answered a there := by cases there
  inOrder := (List.append_nil _).symm
  single := .inl rfl
  channel := ⟨[], (List.append_nil _).symm⟩

theorem Sound.step (sound : Sound policy started link transport s) (h : s.Advances move s') :
    Sound policy started link transport s' := by
  obtain ⟨lived, kept, answered, inOrder, single, channel⟩ := sound
  cases h with
  | accept request =>
    refine ⟨lived, kept, answered, inOrder, single, ?_⟩
    obtain ⟨gone, split⟩ := channel
    exact ⟨gone, by simp only [← List.append_assoc, split]⟩
  | refuse => exact ⟨lived, kept, answered, inOrder, single, channel⟩
  | release connected free parked =>
    -- The sending side is empty, so all that was moved before has been taken.
    rw [parked] at kept
    rw [free, List.append_nil] at inOrder
    refine ⟨lived, ?_, answered, ?_, .inr (Nat.le_refl 1), channel⟩
    · rw [List.append_assoc]
      exact kept
    · rw [inOrder, List.append_assoc]
  | goOn => exact ⟨lived, kept, answered, inOrder, single, channel⟩
  | flow sent drawn collision =>
    refine ⟨lived, kept, answered, ?_, single.imp_right fun few => ?_,
      (List.drop_suffix ..).trans channel⟩
    · rw [List.append_assoc, List.take_append_drop, inOrder]
    · rw [List.length_drop]
      omega
  | react phase reacted same =>
    rcases same with rfl | rfl
    · exact ⟨lived.reacted reacted, kept, answered, inOrder, single, channel⟩
    · exact ⟨lived.reacted reacted, kept, answered, inOrder, single, List.nil_suffix⟩
  | @park request sound =>
    refine ⟨lived, ?_, ?_, inOrder, single, channel⟩
    · rw [← List.append_assoc, kept]
      simp [accepted]
    · simp only [List.forall_mem_append, List.forall_mem_singleton]
      exact ⟨answered, sound.symm⟩
  | @reject request fault flawed =>
    refine ⟨lived, ?_, ?_, inOrder, single, channel⟩
    · rw [kept]
      simp [accepted]
    · simp only [List.forall_mem_append, List.forall_mem_singleton]
      exact ⟨answered, flawed.symm⟩
  | handled => exact ⟨lived, kept, answered, inOrder, single, channel⟩

/-- Only publishing can be refused, and only for its topic. -/
theorem verdict_eq_error {fault : Fault} (refused : request.verdict = .error fault) :
    ∃ topic payload guarantee retain flaw, request = .publish topic payload guarantee retain ∧
      topicFlaw? topic = some flaw ∧ fault = .invalidTopic topic flaw.reason := by
  cases request with
  | publish topic payload guarantee retain =>
    change checkTopic topic = .error fault at refused
    unfold checkTopic at refused
    split at refused
    · cases refused
    · rename_i flaw flawed
      cases refused
      exact ⟨topic, payload, guarantee, retain, flaw, rfl, flawed, rfl⟩
  | _ => cases refused

/-- What a callback asks for is answered at once. -/
theorem answers_order (handling : s.phase = .handling) (other : request ≠ .disconnect) :
    ∃ s', s.step? (.order request) = some s' ∧
      s'.asked = s.asked ++ [(request, request.verdict)] ∧ s'.transport = s.transport ∧
      s'.link = match request.verdict with
        | .ok () => { s.link with parked := s.link.parked ++ [request] }
        | .error _ => s.link := by
  refine ⟨_, by rw [step?, if_pos ⟨handling, other⟩, s.link.request?_network other]; rfl, ?_⟩
  cases request.verdict <;> exact ⟨rfl, rfl, rfl⟩

/-- A request is moved only in a session, and only to a sending side that has nothing to do. -/
theorem Advances.paces (h : s.Advances move s') : s'.released = s.released ∨
    ∃ request, s.loop.connected = true ∧ s.transport = ⟨[], false⟩ ∧
      s'.released = s.released ++ [request] ∧ s'.transport.pending = [request] ∧
      s.link.parked = request :: s'.link.parked := by
  cases h with
  | @release request rest connected free parked =>
    exact .inr ⟨request, connected, free, rfl, rfl, parked⟩
  | _ => exact .inl rfl

/-- How what callbacks ask for goes out of a thread that began with this link and this sending
side. -/
structure Paced (link : Link) (transport : Transport) (s : Parking) : Prop where
  /-- What was moved and then what is still parked is what was accepted, in the same order. -/
  kept : s.released ++ s.link.parked = link.parked ++ s.accepted
  /-- Everything was accepted but what was to be published on a flawed topic. -/
  answered : ∀ a ∈ s.asked, a.2 = a.1.verdict ∧ ∀ fault, a.2 = .error fault →
    ∃ topic payload guarantee retain flaw, a.1 = .publish topic payload guarantee retain ∧
      topicFlaw? topic = some flaw ∧ fault = .invalidTopic topic flaw.reason
  /-- A callback is answered at once, however full the channel is, and nothing changes but what is
  parked, or nothing at all. -/
  prompt : s.phase = .handling → ∀ request ≠ .disconnect,
    ∃ s', s.step? (.order request) = some s' ∧
      s'.asked = s.asked ++ [(request, request.verdict)] ∧ s'.transport = s.transport ∧
      s'.link = match request.verdict with
        | .ok () => { s.link with parked := s.link.parked ++ [request] }
        | .error _ => s.link
  /-- What was moved to the sending side goes out in order, -/
  inOrder : s.taken ++ s.transport.pending = transport.pending ++ s.released
  /-- and at most one of it is there at a time. -/
  single : s.released = [] ∨ s.transport.pending.length ≤ 1
  /-- It is moved in a session only, when nothing is to be sent and every number is free. -/
  paced : ∀ move s', s.step? move = some s' → s'.released = s.released ∨
    ∃ request, s.loop.connected = true ∧ s.transport = ⟨[], false⟩ ∧
      s'.released = s.released ++ [request] ∧ s'.transport.pending = [request] ∧
      s.link.parked = request :: s'.link.parked
  established : s.loop.connected = true ↔ ∃ d ∈ s.deeds, d.stimulus.isSuccess = true
  /-- The channel holds nothing but what calls put there. -/
  channel : s.link.queued <:+ link.queued ++ s.called

theorem paced_of_run (run : (start policy started link transport).run? moves = some s) :
    s.Paced link transport := by
  have sound := foldlM_keeps (fun sound h => sound.step (advances_of_step? h))
    (sound_start policy started link transport) run
  exact
    { kept := sound.kept
      answered := fun a there =>
        have told := sound.answered a there
        ⟨told, fun fault failed => verdict_eq_error (told.symm.trans failed)⟩
      prompt := fun handling request other => answers_order handling other
      inOrder := sound.inOrder
      single := sound.single
      paced := fun move s' step => (advances_of_step? step).paces
      established := sound.lived.connected_iff
      channel := sound.channel }

/-- A link whose channel has no room left. -/
def full : Link := { Link.withCapacity 1 with queued := [.unsubscribe "z"] }

/-- A round of the loop in which a poll takes so many requests off the sending side. -/
def round (sent : Nat) (collision : Bool) : List Move :=
  [.release, .flow sent 0 collision, .react .origin (.polled (.ok .outgoing))]

/-- The channel is full throughout. Once the thread has connected a callback asks for three things,
one of which is refused. The first is moved at once; the second has to wait until the first has gone
out, and then for a number. -/
def backlog : List Move :=
  [.release, .react .origin (.polled (.ok (.incoming (.connAck false .success)))),
    .release, .react .origin (.polled (.ok (.incoming (.publish [0x61] [] false)))),
    .order (.subscribe "a/#" .atMostOnce), .order (Outflow.report "b/#"),
    .order (Outflow.report "b"), .handled] ++
    round 0 false ++ round 1 true ++ round 0 true ++ round 0 false ++ [.release]

theorem paced_of_backlog :
    ∃ s, (start .usual .origin full .fresh).run? backlog = some s ∧ s.Paced full .fresh ∧
      s.asked.length = 3 ∧ s.released = [.subscribe "a/#" .atMostOnce, Outflow.report "b"] ∧
      s.taken = [.subscribe "a/#" .atMostOnce] ∧ s.link.queued = [.unsubscribe "z"] :=
  ⟨_, rfl, @paced_of_run _ backlog .usual .origin full .fresh rfl, rfl, rfl, rfl, rfl⟩

end Parking

end Courier
