import Mathlib.Data.List.Perm.Basic
import Courier.Proofs.Traffic.Mail
import Courier.Session.Loop

/-!
# From the transport to those who wait

The network thread polls events one at a time. It looks up where a message goes and hands it over
before it polls again, while other threads add and remove subscriptions and wait for messages in
any order. Every message polled is at every moment in one place, and each subscription hands its
messages out in the order in which they were polled.
-/

namespace Courier

/-- The message of an event that brings one. -/
def Event.message? : Event → Option Message
  | .incoming (.publish topic payload _) => some ⟨Utf8.lossy topic, payload⟩
  | _ => none

/-- The event that a stimulus reports. -/
def Stimulus.event? : Stimulus → Option Event
  | .polled (.ok e) => some e
  | _ => none

/-- The message that an effect asks to dispatch. -/
def Effect.message? : Effect → Option Message
  | .dispatch m => some m
  | _ => Option.none

theorem Loop.onEvent_message (l : Loop) (e : Event) : (l.onEvent e).2.message? = e.message? := by
  cases e with
  | outgoing => rfl
  | incoming p => cases p <;> rfl

theorem Loop.onError_message (l : Loop) (e : TransportError) (now : Instant) :
    (l.onError e now).2.message? = none := by
  rw [onError]
  split
  · rfl
  · split
    · rfl
    · simp only [timeOut]
      split <;> rfl

theorem Loop.settle_message (l : Loop) : l.settle.2.message? = none := by
  simp only [settle]
  split <;> rfl

/-- The thread dispatches what it polled, and nothing else. -/
theorem Loop.react?_message {l : Loop} {now : Instant} {stimulus : Stimulus} {r : Loop × Effect}
    (h : l.react? now stimulus = some r) :
    r.2.message? = stimulus.event?.bind Event.message? := by
  rw [react?.eq_def] at h
  split at h
  · cases h
    rfl
  · split at h
    · cases h
      rfl
    · cases h
  · cases h
    exact l.onEvent_message _
  · cases h
    exact l.onError_message _ now
  · cases h
    rfl
  · split at h
    · cases h
      rfl
    · cases h
  · split at h
    · cases h
      rfl
    · cases h
  · cases h
    rfl
  · cases h
    exact l.settle_message
  · cases h

/-- The network thread at its work and all the others at theirs. -/
structure Inflow (σ : Type) where
  loop : Loop
  /-- The events polled so far, the latest last. -/
  polled : List Event
  /-- The message that the thread is about to look up. -/
  holding : Option Message
  traffic : Traffic σ

namespace Inflow

open Traffic (Routing sentTo sentTo_append sentTo_singleton)

variable {σ : Type}

def start (loop : Loop) (link : σ) : Inflow σ := ⟨loop, [], none, .start link⟩

inductive Move (σ : Type) where
  /-- The network thread reacts, if it has dispatched all that it polled. -/
  | react (now : Instant) (stimulus : Stimulus)
  | lookUp
  | handOver (chosen : Nat)
  /-- A move of another thread. -/
  | other (move : Traffic.Move σ)

def step? (link : LinkAnswers σ) (s : Inflow σ) : Move σ → Option (Inflow σ)
  | .react now stimulus =>
    if s.holding = none ∧ s.traffic.matched = [] then
      (s.loop.react? now stimulus).map fun (loop, effect) =>
        { s with loop, polled := s.polled ++ stimulus.event?.toList, holding := effect.message? }
    else none
  | .lookUp => s.holding.map fun m => { s with holding := none, traffic := s.traffic.route m }
  | .handOver chosen =>
    (s.traffic.handOver 0 chosen).map fun traffic => { s with traffic }
  | .other move =>
    if move.isRouting then none
    else (s.traffic.step? link move).map fun traffic => { s with traffic }

def run? (link : LinkAnswers σ) (moves : List (Move σ)) (s : Inflow σ) : Option (Inflow σ) :=
  moves.foldlM (step? link) s

variable {link : LinkAnswers σ} {l : σ} {loop : Loop} {s s' : Inflow σ} {moves : List (Move σ)}

/-! ## One message at a time -/

theorem step?_traffic {move : Move σ} (h : s.step? link move = some s') :
    s'.traffic = s.traffic ∨ ∃ m, s.traffic.step? link m = some s'.traffic := by
  cases move with
  | react now stimulus =>
    simp only [step?] at h
    split at h
    · obtain ⟨r, -, rfl⟩ := Option.map_eq_some_iff.mp h
      exact .inl rfl
    · cases h
  | lookUp =>
    obtain ⟨m, -, rfl⟩ := Option.map_eq_some_iff.mp h
    exact .inr ⟨.route m, rfl⟩
  | handOver chosen =>
    obtain ⟨traffic, handed, rfl⟩ := Option.map_eq_some_iff.mp h
    exact .inr ⟨.handOver 0 chosen, handed⟩
  | other move =>
    simp only [step?] at h
    split at h
    · cases h
    · obtain ⟨traffic, moved, rfl⟩ := Option.map_eq_some_iff.mp h
      exact .inr ⟨move, moved⟩

/-- What is proved of all runs of calls holds of these too. -/
theorem run?_traffic (h : s.run? link moves = some s') :
    ∃ others, s.traffic.run? link others = some s'.traffic := by
  refine foldlM_keeps (P := fun t => ∃ others, s.traffic.run? link others = some t.traffic) ?_
    ⟨[], rfl⟩ h
  rintro next last move ⟨others, run⟩ step
  rcases step?_traffic step with same | ⟨m, moved⟩
  · exact ⟨others, same ▸ run⟩
  · refine ⟨others ++ [m], (foldlM_append_of_eq_some run).trans ?_⟩
    exact foldlM_cons_eq_some.mpr ⟨_, moved, rfl⟩

/-- The network thread has at most one message in hand, and hands messages over in the order in
which it polled them. -/
structure InStep (s : Inflow σ) : Prop where
  polled : s.polled.filterMap Event.message? =
    s.traffic.history.routed.map (·.message) ++ s.holding.toList
  delivered : s.traffic.history.routed.filterMap (·.sent?) =
    s.traffic.history.delivered ++ s.traffic.matched
  single : s.holding.toList.length + s.traffic.matched.length ≤ 1

theorem InStep.step? {move : Move σ} (inStep : s.InStep) (h : s.step? link move = some s') :
    s'.InStep := by
  cases move with
  | react now stimulus =>
    simp only [Inflow.step?] at h
    split at h
    · rename_i idle
      obtain ⟨r, reacted, rfl⟩ := Option.map_eq_some_iff.mp h
      have message := Loop.react?_message reacted
      refine ⟨?_, inStep.delivered, ?_⟩
      · have polled := inStep.polled
        rw [idle.1] at polled
        simp only [List.filterMap_append, polled, message]
        cases stimulus.event? with
        | none => simp
        | some e => cases brought : e.message? <;> simp [brought]
      · rw [idle.2]
        cases r.2.message? <;> simp
    · cases h
  | lookUp =>
    obtain ⟨m, held, rfl⟩ := Option.map_eq_some_iff.mp h
    have none : s.traffic.matched = [] := by
      have single := inStep.single
      rw [held, Option.toList_some, List.length_singleton] at single
      exact List.eq_nil_of_length_eq_zero (by omega)
    refine ⟨?_, ?_, ?_⟩
    · rw [inStep.polled, held]
      simp [Traffic.route]
    · simp only [Traffic.route, List.filterMap_append, inStep.delivered, List.append_assoc]
      congr 2
    · rw [Traffic.route, none]
      cases s.traffic.registry.target? m.topic <;> simp
  | handOver chosen =>
    obtain ⟨traffic, handed, rfl⟩ := Option.map_eq_some_iff.mp h
    obtain ⟨id, m, here, matched, routed, delivered⟩ := Traffic.handOver_eq_some handed
    -- the first of the messages on their way is the one that goes over
    obtain ⟨rest, front⟩ : ∃ rest, s.traffic.matched = (id, m) :: rest := by
      cases front : s.traffic.matched with
      | nil => simp [front] at here
      | cons head rest =>
        rw [front] at here
        exact ⟨rest, by rw [Option.some.inj here]⟩
    have single := inStep.single
    have order := inStep.delivered
    rw [front] at matched single order
    refine ⟨?_, ?_, ?_⟩
    · rw [routed]
      exact inStep.polled
    · rw [routed, delivered, matched, order]
      simp
    · rw [matched]
      simp only [List.length_cons, List.eraseIdx_cons_zero] at single ⊢
      omega
  | other move =>
    simp only [Inflow.step?] at h
    split at h
    · cases h
    · rename_i isRouting
      obtain ⟨traffic, moved, rfl⟩ := Option.map_eq_some_iff.mp h
      have same := Traffic.step?_offRoute (Bool.not_eq_true _ ▸ isRouting) moved
      refine ⟨?_, ?_, ?_⟩
      · rw [same.routed]
        exact inStep.polled
      · rw [same.routed, same.delivered, same.matched]
        exact inStep.delivered
      · rw [same.matched]
        exact inStep.single

theorem inStep_of_run (run : (start loop l).run? link moves = some s) : s.InStep :=
  foldlM_keeps InStep.step? ⟨rfl, rfl, Nat.zero_le _⟩ run

/-! ## Nothing is lost and nothing is doubled -/

/-- The messages that a subscription was given, by where they are now. -/
def kept (s : Inflow σ) (id : SubscriptionId) : List Message :=
  match s.traffic.registry.made[id]? with
  | some ⟨_, .queue box⟩ => sentTo id s.traffic.post.returned ++ box.pending
  | some ⟨_, .callback _⟩ => sentTo id s.traffic.history.delivered
  | none => []

/-- The messages that no filter matched. -/
def dropped (s : Inflow σ) : List Message :=
  (s.traffic.history.routed.filter (·.target = none)).map (·.message)

theorem routed_perm (routed : List Routing) :
    (routed.map (·.message)).Perm
      ((routed.filter (·.target = none)).map (·.message) ++
        (routed.filterMap (·.sent?)).map (·.2)) := by
  induction routed with
  | nil => exact .refl _
  | cons routing rest ih =>
    cases target : routing.target with
    | none => simpa [target, Routing.sent?] using ih
    | some id =>
      simp only [List.map_cons, target, reduceCtorEq, decide_false, Bool.false_eq_true,
        not_false_eq_true, List.filter_cons_of_neg, List.filterMap_cons, Routing.sent?,
        Option.map_some]
      exact (ih.cons routing.message).trans List.perm_middle.symm

theorem flatMap_alone (a : Nat) (m : Message) {n : Nat} (h : a < n) :
    ((List.range n).flatMap fun id => if a = id then [m] else []) = [m] := by
  induction n with
  | zero => omega
  | succ n ih =>
    rw [List.range_succ, List.flatMap_append, List.flatMap_singleton]
    by_cases last : a = n
    · have none : ((List.range n).flatMap fun id => if a = id then [m] else []) = [] := by
        refine List.flatMap_eq_nil_iff.mpr fun id hid => ?_
        rw [if_neg (by rw [last]; exact (Nat.ne_of_gt (List.mem_range.mp hid)))]
      rw [none, if_pos last, List.nil_append]
    · rw [ih (by omega), if_neg last, List.append_nil]

theorem flatMap_sentTo_perm {n : Nat} {sent : List (SubscriptionId × Message)}
    (h : ∀ x ∈ sent, x.1 < n) :
    ((List.range n).flatMap fun id => sentTo id sent).Perm (sent.map (·.2)) := by
  induction sent with
  | nil => simp [sentTo]
  | cons x rest ih =>
    have ih := ih fun y hy => h y (List.mem_cons_of_mem _ hy)
    have parts := List.flatMap_append_perm (List.range n)
      (fun id => if x.1 = id then [x.2] else []) (fun id => sentTo id rest)
    rw [flatMap_alone x.1 x.2 (h x List.mem_cons_self)] at parts
    have split : (fun id => sentTo id (x :: rest)) =
        fun id => (if x.1 = id then [x.2] else []) ++ sentTo id rest := by
      funext id
      exact (sentTo_append id [x] rest).trans (by rw [sentTo_singleton])
    rw [split]
    exact parts.symm.trans (ih.cons x.2)

/-- Where every message is that was polled. -/
structure Accounted (s : Inflow σ) : Prop where
  /-- The messages polled were looked up in turn, but for the one in hand. -/
  polled : s.polled.filterMap Event.message? =
    s.traffic.history.routed.map (·.message) ++ s.holding.toList
  proper : ∀ routing ∈ s.traffic.history.routed, routing.Proper s.traffic.registry
  single : s.holding.toList.length + s.traffic.matched.length ≤ 1
  /-- What calls got, then what waits, then what is on its way: all that was for the subscription,
  in the order in which it was polled. -/
  queue : ∀ (id : SubscriptionId) (f : String) (box : Mailbox),
    s.traffic.registry.made[id]? = some ⟨f, .queue box⟩ →
      sentTo id s.traffic.post.returned ++ box.pending ++ sentTo id s.traffic.matched =
        sentTo id (s.traffic.history.routed.filterMap (·.sent?))
  callback : ∀ (id : SubscriptionId) (f : String) (handler : Handler),
    s.traffic.registry.made[id]? = some ⟨f, .callback handler⟩ →
      sentTo id s.traffic.post.returned = [] ∧
        sentTo id s.traffic.history.delivered ++ sentTo id s.traffic.matched =
          sentTo id (s.traffic.history.routed.filterMap (·.sent?))
  /-- No call for a message returns twice. -/
  answered : (s.traffic.history.answers.map (·.2.id)).Nodup
  conserved : (s.polled.filterMap Event.message?).Perm
    (s.holding.toList ++ (s.dropped ++ (s.traffic.matched.map (·.2) ++
      (List.range s.traffic.registry.made.length).flatMap s.kept)))

theorem kept_eq (inOrder : s.traffic.post.InOrder) {id : Nat}
    (known : id < s.traffic.registry.made.length) :
    s.kept id = sentTo id s.traffic.history.delivered := by
  have found := List.getElem?_eq_getElem known
  rcases sub : s.traffic.registry.made[id] with ⟨f, box | handler⟩
  · rw [sub] at found
    rw [kept, found]
    exact inOrder.accounts id _ found
  · rw [sub] at found
    rw [kept, found]

theorem conserved_of_inStep (inStep : s.InStep) (inOrder : s.traffic.post.InOrder) :
    (s.polled.filterMap Event.message?).Perm
      (s.holding.toList ++ (s.dropped ++ (s.traffic.matched.map (·.2) ++
        (List.range s.traffic.registry.made.length).flatMap s.kept))) := by
  have places : ((List.range s.traffic.registry.made.length).flatMap s.kept).Perm
      (s.traffic.history.delivered.map (·.2)) := by
    have same : (List.range s.traffic.registry.made.length).flatMap s.kept =
        (List.range s.traffic.registry.made.length).flatMap fun id =>
          sentTo id s.traffic.history.delivered :=
      List.flatMap_congr fun id known => kept_eq inOrder (List.mem_range.mp known)
    rw [same]
    exact flatMap_sentTo_perm inOrder.delivered
  have onward : ((s.traffic.history.routed.filterMap (·.sent?)).map (·.2)).Perm
      (s.traffic.matched.map (·.2) ++
        (List.range s.traffic.registry.made.length).flatMap s.kept) := by
    rw [inStep.delivered, List.map_append]
    exact List.perm_append_comm.trans (places.symm.append_left _)
  rw [inStep.polled]
  refine List.perm_append_comm.trans (List.Perm.append_left _ ?_)
  exact (routed_perm _).trans (onward.append_left _)

theorem accounted_of_run (run : (start loop l).run? link moves = some s) : s.Accounted := by
  obtain ⟨others, traffic⟩ := run?_traffic run
  have inStep := inStep_of_run run
  have inOrder := Traffic.inOrder_of_run traffic
  have sent (id : SubscriptionId) : sentTo id s.traffic.history.delivered ++
      sentTo id s.traffic.matched = sentTo id (s.traffic.history.routed.filterMap (·.sent?)) := by
    rw [inStep.delivered, sentTo_append]
  constructor
  · exact inStep.polled
  · exact Traffic.proper_of_run traffic
  · exact inStep.single
  · intro id f box found
    have accounts := inOrder.accounts id _ found
    rw [← sent]
    exact congrArg (· ++ _) accounts
  · intro id f handler found
    exact ⟨inOrder.accounts id _ found, sent id⟩
  · exact (Traffic.counted_of_run traffic).nodup
  · exact conserved_of_inStep inStep inOrder

/-- A message is on its way while its subscription is removed, and goes to the call that waits; the
next finds no filter. -/
def overtaken : List (Move (List (Except Fault Unit))) :=
  [.other (.add "a" .usual (.queue .empty)), .other (.advance 0), .other (.advance 0),
    .other (.receive 0 .origin none),
    .react .origin (.polled (.ok (.incoming (.publish [0x61] [0x48] false)))), .lookUp,
    .other (.remove "a"), .other (.advance 1), .handOver 0, .other (.wake 0 .origin (.resume 0)),
    .react .origin (.polled (.ok (.incoming (.publish [0x61] [0x49] false)))), .lookUp]

theorem accounted_of_overtaken :
    ∃ s : Inflow (List (Except Fault Unit)),
      (start (.fresh .usual .origin) []).run? Traffic.scripted overtaken = some s ∧
        sentTo 0 s.traffic.post.returned = [⟨"a", [0x48]⟩] ∧ s.dropped = [⟨"a", [0x49]⟩] ∧
        s.Accounted := by
  obtain ⟨s, run, returned, dropped⟩ : ∃ s : Inflow (List (Except Fault Unit)),
      (start (.fresh .usual .origin) []).run? Traffic.scripted overtaken = some s ∧
        sentTo 0 s.traffic.post.returned = [⟨"a", [0x48]⟩] ∧ s.dropped = [⟨"a", [0x49]⟩] :=
    ⟨_, rfl, by decide, by decide⟩
  exact ⟨s, run, returned, dropped, accounted_of_run run⟩

end Inflow

end Courier
