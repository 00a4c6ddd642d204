import Courier.Proofs.Session.Shift
import Courier.Proofs.Session.Tenure

/-!
# What a manager can be relied on for

A manager connects once, whatever has been demanded of it before, and it can be torn down any number
of times. Only the first call to connect and the first teardown after it do anything.
-/

namespace Courier

namespace Tenure

variable {m : Manager} {now : Instant} {s s' : Tenure} {moves : List Move}

theorem Era.threads (era : s.Era m now) : s.threads ≤ 1 := by
  cases era with
  | unopened unopened => exact unopened.threads ▸ Nat.zero_le 1
  | opening opening => exact Nat.le_of_add_right_le opening.threads
  | held held => exact held.opened.threads
  | ended ended => exact ended.opened.threads

theorem Era.parted (era : s.Era m now) : s.Parted := by
  cases era with
  | unopened unopened => exact .of_nil unopened.farewells
  | opening opening => exact .of_nil opening.farewells
  | held held =>
    have turn := held.turn
    cases stage : s.call with
    | connect | disconnect | bye | returned =>
      rw [stage] at turn
      exact .of_nil turn.2.1
    | stop | claim | join =>
      rw [stage] at turn
      exact turn.2
    | reset =>
      rw [stage] at turn
      exact turn.2.1
    | _ =>
      rw [stage] at turn
      exact turn.elim
  | ended ended => exact ended.parted

/-- A call to connect that is not the first finds no transport, and touches nothing. -/
theorem Era.refuses (era : s.Era m now) (again : 2 ≤ s.connects) (called : s.call = .connect)
    (spawned : Except String Unit) : s.step? (.go spawned) = some { s with
      session := s.session.goOn (.returned (.error Manager.startedFault), s.manager) } := by
  have transport : s.manager.transport = none := by
    cases era with
    | unopened unopened =>
      have := unopened.connects
      omega
    | opening opening =>
      have := opening.connects
      omega
    | held held => exact held.opened.transport
    | ended ended => exact ended.opened.transport
  have refused : s.manager.step? spawned s.session.now 0 s.call =
      some (.returned (.error Manager.startedFault), s.manager) := by
    rw [called, Manager.step?, transport]
    rfl
  have quiet : s.call ≠ .bye := fun bye => by cases called.symm.trans bye
  calc s.step? (.go spawned)
      = ((s.manager.step? spawned s.session.now 0 s.call).map s.session.goOn).map s.goOn := rfl
    _ = some (s.goOn (s.session.goOn (.returned (.error Manager.startedFault), s.manager))) := by
        rw [refused]
        rfl
    _ = _ := congrArg some (goOn_aside (by rw [called]; rfl) quiet)

/-- Whoever tore the session down left nothing of it. -/
theorem Era.torn (era : s.Era m now) (unused : m.Unused) {demand : Demand} {state : SessionState}
    (asked : s.asked = some (demand, state)) (other : demand ≠ .connect)
    (finished : s.call.isOver) :
    s.session.AtRest ∧ s.manager.joinable = false := by
  cases era with
  | unopened unopened =>
    obtain ⟨-, -, -, k, link, later, call, session, -⟩ := unopened
    rw [Tenure.call, session] at finished
    rw [Tenure.manager, session]
    refine ⟨⟨finished, fun t thread => ?_, rfl, ?_⟩, unused.joinable⟩
    · cases unused.thread.symm.trans thread
    · exact congrArg Signal.state unused.signal
  | opening opening => exact absurd finished (ne_true_of_eq_false opening.underWay)
  | held held =>
    have turn := held.turn
    cases stage : s.call with
    | returned =>
      rw [stage] at turn
      obtain ⟨-, -, state', same⟩ := turn
      cases asked.symm.trans same
      exact absurd rfl other
    | _ =>
      rw [stage] at finished
      cases finished
  | ended ended =>
    exact ⟨⟨finished, ended.rest.thread, ended.rest.idle, ended.rest.state⟩, ended.joinable⟩

theorem run?_ask (free : s.isFree) (demand : Demand) (moves : List Move) :
    s.run? (.ask demand :: moves) = (s.ask demand).run? moves := by
  rw [run?, List.foldlM_cons, step?, if_pos free]
  rfl

/-- Tearing down what is torn down only requests one more stop. -/
theorem tears_again (rest : s.session.AtRest) (taken : s.manager.joinable = false) (free : s.isFree)
    {demand : Demand} (other : demand ≠ .connect) :
    ∃ n s', s.run? (.ask demand :: List.replicate n (.go (.ok ()))) = some s' ∧ s'.call.isOver ∧
      s'.manager = { s.manager with stops := s.manager.stops + 1 } ∧
      s'.farewells = s.farewells := by
  have state := rest.state
  simp only [run?_ask free]
  obtain ⟨⟨⟨options, policy, link, ⟨st, outcome, asleep, woken⟩, transport, stops, thread,
    joinable⟩, now, c, closers, began, underway, deeds⟩, asked, connects, threads, farewells⟩ := s
  subst state
  subst taken
  cases demand with
  | connect => exact absurd rfl other
  | disconnect =>
    have silent : farewells ++ [] ++ [] ++ [] ++ [] = farewells := by simp
    exact ⟨4, _, rfl, rfl, rfl, silent⟩
  | drop =>
    have silent : farewells ++ [] ++ [] ++ [] = farewells := by simp
    exact ⟨3, _, rfl, rfl, rfl, silent⟩

/-! ## Disconnecting before connecting -/

/-- A life with more requests to stop, all of them before there was a thread to hear them. -/
def shift (k : Nat) (s : Tenure) : Tenure := { s with session := s.session.shift k }

theorem started_shift (k : Nat) (c call : Manager.Call) :
    started (c.shift k) (call.shift k) = started c call := by
  cases c <;> cases call <;> rfl

theorem parting_shift (k : Nat) (s : Tenure) : (s.shift k).parting = s.parting := by
  obtain ⟨⟨m, now, c, closers, opened, underway, deeds⟩, asked, connects, threads, farewells⟩ := s
  cases c with
  | bye =>
    simp only [parting, shift, Ensemble.shift, manager, Manager.shift, Manager.request?]
    cases m.link.request? .caller .disconnect with
    | none => rfl
    | some answer =>
      obtain ⟨result, link⟩ := answer
      cases result <;> rfl
  | _ => rfl

theorem goOn_shift (k : Nat) (s : Tenure) (session : Ensemble) :
    (s.shift k).goOn (session.shift k) = (s.goOn session).shift k := by
  have begun : started (s.shift k).call (session.shift k).opener = started s.call session.opener :=
    started_shift k s.call session.opener
  rw [goOn, parting_shift, begun]
  rfl

theorem isFree_shift (k : Nat) (s : Tenure) : (s.shift k).isFree = s.isFree := by
  obtain ⟨⟨m, now, c, closers, opened, underway, deeds⟩, asked, connects, threads, farewells⟩ := s
  cases c <;> rfl

theorem ask_shift (k : Nat) (s : Tenure) (demand : Demand) :
    (s.shift k).ask demand = (s.ask demand).shift k := by
  cases demand <;> rfl

theorem step?_shift (k : Nat) (s : Tenure) (move : Move) :
    (s.shift k).step? move = (s.step? move).map (shift k) := by
  have along (move : Ensemble.Move) :
      (s.shift k).session.step? move = (s.session.step? move).map (Ensemble.shift k) :=
    Ensemble.step?_shift k move
  cases move with
  | ask demand =>
    simp only [step?, isFree_shift, ask_shift]
    split <;> rfl
  | go spawned =>
    simp only [step?, along, Option.map_map]
    exact congrArg (Option.map · _) (funext fun session => goOn_shift k s session)
  | stir =>
    simp only [step?, along, Option.map_map]
    rfl
  | beside move =>
    simp only [step?, along]
    split
    · rw [Option.map_map, Option.map_map]
      rfl
    · rfl

theorem run?_shift (k : Nat) (s : Tenure) (moves : List Move) :
    (s.shift k).run? moves = (s.run? moves).map (shift k) := by
  induction moves generalizing s with
  | nil => rfl
  | cons move moves ih =>
    simp only [run?, List.foldlM_cons, Option.bind_eq_bind, step?_shift, Option.map_bind,
      Option.bind_map]
    exact congrArg _ (funext fun next => ih next)

theorem idle_shift (none : m.thread = none) (k : Nat) (link : Link) (later : Instant)
    (call : Manager.Call) (same : call.shift k = call) :
    (idle m now 0 link later call).shift k = idle m now k link later call := by
  obtain ⟨options, policy, link₀, signal, transport, stops, thread, joinable⟩ := m
  cases none
  simp only [idle, Ensemble.shift, Ensemble.start, same]
  rfl

/-- A manager that was left alone so far. -/
def alone (m : Manager) (now : Instant) (link : Link) (later : Instant) : Tenure :=
  ⟨idle m now 0 link later (.returned (.ok ())), none, 0, 0, []⟩

theorem run?_alone {later : Instant} (onward : now ≤ later) (link : Link) :
    (start m now).run? [.beside (.pass later), .beside (.relink link)] =
      some (alone m now link later) := by
  have passes : (start m now).step? (.beside (.pass later)) =
      some { start m now with session.now := later } :=
    congrArg (Option.map _) (if_pos onward)
  rw [run?, List.foldlM_cons, passes]
  rfl

/-- A manager that has only been told to disconnect goes on as one that was left alone. -/
theorem Unopened.unaffected (unopened : s.Unopened m now) (unused : m.Unused) (free : s.isFree) :
    ∃ (k : Nat) (s₀ : Tenure), (Tenure.start m now).run?
        [.beside (.pass s.session.now), .beside (.relink s.manager.link)] = some s₀ ∧
      ∀ demand after, s.run? (.ask demand :: after) =
        (s₀.run? (.ask demand :: after)).map (shift k) := by
  obtain ⟨unasked, unstarted, silent, k, link, later, call, session, onward, -⟩ := unopened
  have asked (demand : Demand) :
      s.ask demand = ((alone m now link later).ask demand).shift k := by
    have same : demand.call.shift k = demand.call := by cases demand <;> rfl
    have shifted : (idle m now 0 link later demand.call).shift k = _ :=
      idle_shift unused.thread k link later demand.call same
    rw [ask, manager, session, unasked, unstarted, silent]
    exact congrArg (fun e : Ensemble => ({ session := e, .. } : Tenure)) shifted.symm
  refine ⟨k, alone m now link later, ?_, fun demand after => ?_⟩
  · rw [manager, session]
    exact run?_alone onward link
  · rw [run?_ask free, asked, run?_shift]
    rfl

/-- The broker answers a call to connect at once. -/
def answered : List Move :=
  .ask .connect :: List.replicate 5 (.go (.ok ())) ++
    [.beside (.react (.polled (.ok (.incoming (.connAck false .success))))), .beside .carryOut,
      .go (.ok ())]

theorem Unopened.establishes (unopened : s.Unopened m now) (unused : m.Unused) (free : s.isFree) :
    ∃ s', s.run? answered = some s' ∧ s'.call = .returned (.ok ()) ∧
      s'.manager.state = .connected := by
  obtain ⟨-, -, -, k, link, later, call, session, -⟩ := unopened
  have asked : (s.ask .connect).session = idle m now k link later .connect := by
    rw [ask, session]
    rfl
  rw [answered, List.cons_append, run?_ask free]
  generalize s.ask .connect = s₁ at asked ⊢
  obtain ⟨session₁, asked₁, connects, threads, farewells⟩ := s₁
  obtain ⟨options, policy, link₀, signal, transport, stops, thread, joinable⟩ := m
  obtain ⟨rfl, untaken, rfl, rfl⟩ := unused
  obtain ⟨t, rfl⟩ := Option.ne_none_iff_exists'.mp untaken
  obtain rfl := asked
  exact ⟨_, rfl, rfl, rfl⟩

/-- Whatever is demanded of a manager and whatever the network does: it starts one thread at most.
Every call to connect but the first fails and touches nothing. Disconnecting before connecting only
requests a stop that nobody hears. One request to disconnect is made at most, by a call that found
the session connected. Whoever disconnects or drops the manager leaves nothing that could be torn
down again. -/
theorem one_shot (unused : m.Unused) (run : (start m now).run? moves = some s) :
    s.threads ≤ 1 ∧
    (2 ≤ s.connects → s.call = .connect → ∀ spawned, s.step? (.go spawned) = some { s with
      session := s.session.goOn (.returned (.error Manager.startedFault), s.manager) }) ∧
    (s.connects = 0 → s.isFree →
      (∃ (k : Nat) (s₀ : Tenure), (start m now).run?
          [.beside (.pass s.session.now), .beside (.relink s.manager.link)] = some s₀ ∧
        ∀ demand after, s.run? (.ask demand :: after) =
          (s₀.run? (.ask demand :: after)).map (shift k)) ∧
      ∃ s', s.run? answered = some s' ∧ s'.call = .returned (.ok ()) ∧
        s'.manager.state = .connected) ∧
    (s.farewells.length ≤ 1 ∧ ∀ asked ∈ s.farewells, asked = some (.disconnect, .connected)) ∧
    ∀ demand state, s.asked = some (demand, state) → demand ≠ .connect → s.call.isOver →
      s.session.AtRest ∧ (s.isFree → ∀ again, again ≠ .connect →
        ∃ n s', s.run? (.ask again :: List.replicate n (.go (.ok ()))) = some s' ∧
          s'.call.isOver ∧ s'.manager = { s.manager with stops := s.manager.stops + 1 } ∧
          s'.farewells = s.farewells) := by
  have era := era_of_run unused run
  refine ⟨era.threads, era.refuses, fun unasked free => ?_, era.parted,
    fun demand state asked other finished => ?_⟩
  · cases era with
    | unopened unopened => exact ⟨unopened.unaffected unused free, unopened.establishes unused free⟩
    | opening opening => cases unasked.symm.trans opening.connects
    | held held => exact absurd held.opened.connects (by omega)
    | ended ended => exact absurd ended.opened.connects (by omega)
  · obtain ⟨rest, taken⟩ := era.torn unused asked other finished
    exact ⟨rest, fun free again => tears_again rest taken free⟩

/-- After a call to disconnect, a session is established and connected to in vain again. -/
def reconnecting : List Move :=
  .ask .disconnect :: List.replicate 4 (.go (.ok ())) ++ answered ++ [.ask .connect]

/-- It is disconnected from, and the manager dropped. -/
def leaving : List Move :=
  [.go (.ok ()), .ask .disconnect, .go (.ok ()), .go (.ok ()), .go (.ok ()), .go (.ok ()),
    .beside (.react .shutdown), .beside .carryOut, .beside (.react .drained), .beside .carryOut,
    .beside (.react .proceed), .beside .carryOut, .go (.ok ()), .go (.ok ()),
    .ask .drop, .go (.ok ()), .go (.ok ()), .go (.ok ())]

theorem one_shot_reconnecting :
    let first := start (Ensemble.newManager .usual) .origin
    (∃ s s', first.run? reconnecting = some s ∧ s.step? (.go (.ok ())) = some s' ∧
      s'.call = .returned (.error Manager.startedFault) ∧ s'.manager.state = .connected) ∧
    ∃ s, first.run? (reconnecting ++ leaving) = some s ∧
      s.farewells = [some (.disconnect, .connected)] ∧ s.threads = 1 ∧ s.session.AtRest := by
  have unused := Ensemble.newManager_unused .usual
  constructor
  · exact ⟨_, _, rfl, (@one_shot _ .origin _ reconnecting unused rfl).2.1 (by decide) rfl (.ok ()),
      rfl, rfl⟩
  · have whole := @one_shot _ .origin _ (reconnecting ++ leaving) unused rfl
    exact ⟨_, rfl, rfl, rfl, (whole.2.2.2.2 .drop .disconnected rfl nofun rfl).1⟩

end Tenure

end Courier
