import Courier.Proofs.Session.Connect
import Courier.Proofs.Session.Course
import Courier.Proofs.Session.Disconnect

/-!
# One manager for its whole life

Calls to connect and to disconnect, made one after another on one manager until it is dropped, with
the network thread at work during them and between them. Only the first call to connect finds the
transport. Whoever tears the session down waits for the thread, so nothing is left for the next one
to tear down.
-/

namespace Courier

/-- What is demanded of a manager. -/
inductive Demand where
  | connect
  | disconnect
  /-- The manager goes out of use. -/
  | drop
  deriving DecidableEq

/-- The call that a demand begins. -/
def Demand.call : Demand → Manager.Call
  | .connect => .connect
  | .disconnect => .disconnect
  | .drop => .stop (.ok ())

structure Tenure where
  /-- The manager with its thread, and the call under way in the place of the call to connect. Once
  it has returned it stays there until the next one comes. -/
  session : Ensemble
  /-- What was demanded last, and the state of the session when it was. -/
  asked : Option (Demand × SessionState)
  /-- How often the manager was to connect. -/
  connects : Nat
  /-- How many threads were started. -/
  threads : Nat
  /-- What was under way whenever a request to disconnect got into the channel. -/
  farewells : List (Option (Demand × SessionState))

/-- A thread with a session does not establish it again. -/
theorem Loop.Reacts.connected_before {l l' : Loop} {now later : Instant} {s : Stimulus}
    {effect : Effect} {signal : Signal} {deeds : List Loop.Deed} (r : l.Reacts now s l' effect)
    (connected : l.connected) (shown : l.Shown deeds signal.state)
    (after : (effect.on later signal).state = .connected) : signal.state = .connected := by
  cases r with
  | stop _ unconnected | expire _ unconnected | refuse _ unconnected | spend _ unconnected
  | pause _ unconnected | retry _ unconnected | settle _ unconnected =>
    exact absurd connected (ne_true_of_eq_false unconnected)
  | establish polling => exact shown.inside (Stage.isInside_of_polling polling) connected
  | observe _ _ quiet => exact Effect.on_quiet quiet later signal ▸ after
  | part | lose => cases after
  | drain | drained | finish => exact after

namespace Ensemble

variable {s s' : Ensemble}

/-- The state goes on to show what the thread does. -/
theorem Drifts.shown (h : s.Drifts s') {o : Manager.Call} {c : List Manager.Call}
    (coherent : ({ s with opener := o, closers := c } : Ensemble).Coherent)
    (shown : ∀ t, s.manager.thread = some t → Loop.Shown t.loop s.deeds s.manager.signal.state) :
    ∀ t, s'.manager.thread = some t → Loop.Shown t.loop s'.deeds s'.manager.signal.state := by
  intro t' there
  cases h with
  | pass | react | relink => exact shown t' there
  | launch thread fresh =>
    cases there
    change Loop.Shown _ s.deeds _
    rw [fresh]
    exact .begun
  | @carryOut t d effect underway thread =>
    cases there
    obtain ⟨before, reacted⟩ := coherent.underway d effect underway t thread
    have lived := coherent.lived t thread
    have r := Loop.reacts_of_react? lived.calm reacted
    have same : (⟨d.now, t.loop, d.stimulus, d.after⟩ : Loop.Deed) = d := by rw [← before]
    have after : Loop.Shown d.after (s.deeds ++ [d]) (effect.on s.now s.manager.signal).state :=
      same ▸ (shown t thread).react lived r
    exact after

/-- The session as it is for whoever does not look at the calls. -/
def unattended (s : Ensemble) : Ensemble := { s with opener := .returned (.ok ()), closers := [] }

theorem Coherent.unattended (coherent : s.Coherent) (finished : s.opener.isOver) :
    s.unattended.Coherent where
  early early := by cases early
  absent none := by
    obtain ⟨deeds, idle, early | settled⟩ := coherent.absent none
    · exact absurd (Manager.Call.isEarly_of_isKept (Manager.Call.isKept_of_isOver finished))
        (ne_false_of_eq_true early)
    · exact ⟨deeds, idle, .inr ⟨rfl, settled.2⟩⟩
  untaken first := by cases first
  lived := coherent.lived
  underway := coherent.underway
  closers _ there := by cases there

/-- A call that tears the session down goes on. -/
theorem Coherent.goOn_unattended (coherent : s.unattended.Coherent) (closing : s.opener.isClosing)
    {spawned : Except String Unit} {call : Manager.Call} {manager : Manager}
    (steps : s.manager.Steps spawned s.now 0 s.opener call manager) :
    (s.goOn (call, manager)).unattended.Coherent := by
  have attended : ({ s.unattended with closers := [s.opener] } : Ensemble).Coherent :=
    ⟨coherent.early, coherent.absent, coherent.untaken, coherent.lived, coherent.underway,
      fun c there => List.mem_singleton.mp there ▸ closing⟩
  have late : s.opener.isEarly = false :=
    Manager.Call.isEarly_of_isKept (Manager.Call.isKept_of_isClosing closing)
  have after := attended.close (i := 0) rfl (steps.anyhow late (.ok ()))
  exact ⟨after.early, after.absent, after.untaken, after.lived, after.underway, nofun⟩

end Ensemble

namespace Tenure

def manager (s : Tenure) : Manager := s.session.manager

def call (s : Tenure) : Manager.Call := s.session.opener

/-- Whether nothing is under way and the manager is still there. -/
def isFree (s : Tenure) : Bool := s.call.isOver && s.asked.all (·.1 ≠ .drop)

def start (m : Manager) (now : Instant) : Tenure where
  session := { Ensemble.start m now with opener := .returned (.ok ()) }
  asked := none
  connects := 0
  threads := 0
  farewells := []

inductive Move where
  | ask (demand : Demand)
  /-- The next step of the call under way; it depends on whether a thread can be had. -/
  | go (spawned : Except String Unit)
  /-- The call under way wakes up for no reason. -/
  | stir
  /-- What happens beside the calls. -/
  | beside (move : Ensemble.Move)

/-- How many threads a step of a call starts. -/
def started : Manager.Call → Manager.Call → Nat
  | .spawn .., .keep _ => 1
  | _, _ => 0

/-- What is under way if the next step of the call gets a request to disconnect into the channel. -/
def parting (s : Tenure) : List (Option (Demand × SessionState)) :=
  match s.call, s.manager.request? .disconnect with
  | .bye, some (.ok (), _) => [s.asked]
  | _, _ => []

def ask (s : Tenure) (demand : Demand) : Tenure :=
  { s with
    session.opener := demand.call
    asked := some (demand, s.manager.state)
    connects := s.connects + if demand = .connect then 1 else 0 }

/-- The call under way goes on. -/
def goOn (s : Tenure) (session : Ensemble) : Tenure :=
  { s with
    session
    threads := s.threads + started s.call session.opener
    farewells := s.farewells ++ s.parting }

def step? (s : Tenure) : Move → Option Tenure
  | .ask demand => if s.isFree then some (s.ask demand) else none
  | .go spawned => (s.session.step? (.connect spawned)).map s.goOn
  | .stir => (s.session.step? .stir).map fun session => { s with session }
  | .beside move =>
    if move.isDrift then (s.session.step? move).map fun session => { s with session } else none

def run? (moves : List Move) (s : Tenure) : Option Tenure := moves.foldlM step? s

/-- Everything that a move can do. -/
inductive Advances (s : Tenure) : Tenure → Prop where
  | ask {demand : Demand} (free : s.isFree) : Advances s (s.ask demand)
  | go {spawned : Except String Unit} {call : Manager.Call} {manager : Manager}
      (steps : s.manager.Steps spawned s.session.now 0 s.call call manager) :
      Advances s (s.goOn (s.session.goOn (call, manager)))
  | beside {session : Ensemble} (drifts : s.session.Drifts session) : Advances s { s with session }

variable {m : Manager} {now : Instant} {s s' : Tenure} {move : Move} {moves : List Move}

theorem parting_of_quiet (quiet : s.call ≠ .bye) : s.parting = [] := by
  unfold parting
  split
  · rename_i bye _
    exact absurd bye quiet
  · rfl

theorem goOn_aside {session : Ensemble} (idle : started s.call session.opener = 0)
    (quiet : s.call ≠ .bye) : s.goOn session = { s with session } := by
  rw [goOn, idle, parting_of_quiet quiet, List.append_nil]
  rfl

theorem advances_of_step? (h : s.step? move = some s') : Advances s s' := by
  cases move with
  | ask demand =>
    simp only [step?] at h
    split at h
    · rename_i free
      cases h
      exact .ask free
    · cases h
  | go spawned =>
    obtain ⟨session, stepped, rfl⟩ := Option.map_eq_some_iff.mp h
    obtain ⟨⟨call, manager⟩, goes, rfl⟩ := Option.map_eq_some_iff.mp stepped
    exact .go (Manager.steps_of_step? goes)
  | stir =>
    obtain ⟨session, stirred, rfl⟩ := Option.map_eq_some_iff.mp h
    simp only [Ensemble.step?] at stirred
    split at stirred
    · rename_i deadline asleep
      obtain ⟨woken, wakes, rfl⟩ := Option.map_eq_some_iff.mp stirred
      have steps : s.manager.Steps (.ok ()) s.session.now 0 s.call _ _ :=
        Manager.steps_of_wait (.inr asleep) rfl (fun w same => by cases same) wakes
      have here : s.call = .asleep deadline := asleep
      have quiet : s.call ≠ .bye := fun bye => by cases here.symm.trans bye
      have aside (session : Ensemble) : s.goOn session = { s with session } :=
        goOn_aside (by rw [here]; rfl) quiet
      exact aside _ ▸ .go steps
    · cases stirred
  | beside move =>
    simp only [step?] at h
    split at h
    · rename_i drift
      obtain ⟨session, stepped, rfl⟩ := Option.map_eq_some_iff.mp h
      exact .beside (Ensemble.drifts_of_step? drift stepped)
    · cases h

/-! ## What holds at every moment -/

/-- A request to disconnect came at most once, out of a call that found a session. -/
def Parted (s : Tenure) : Prop :=
  s.farewells.length ≤ 1 ∧ ∀ asked ∈ s.farewells, asked = some (.disconnect, .connected)

theorem Parted.of_nil (none : s.farewells = []) : s.Parted := by
  rw [Parted, none]
  exact ⟨Nat.zero_le 1, nofun⟩

/-- A session of which nothing has come yet, but of which a stop has been requested before. -/
def idle (m : Manager) (now : Instant) (k : Nat) (link : Link) (later : Instant)
    (call : Manager.Call) : Ensemble :=
  { Ensemble.start { m with link, stops := m.stops + k } now with now := later, opener := call }

/-- Nothing but calls to disconnect so far. -/
structure Unopened (m : Manager) (now : Instant) (s : Tenure) : Prop where
  connects : s.connects = 0
  threads : s.threads = 0
  farewells : s.farewells = []
  session : ∃ k link later call, s.session = idle m now k link later call ∧
    now ≤ later ∧ call.isClosing ∧ call ≠ .bye

/-- Whether a call has its thread and may still succeed. -/
def isHopeful : Manager.Call → Bool
  | .keep _ | .await _ | .asleep _ | .returned (.ok ()) => true
  | _ => false

/-- The first call to connect is under way. -/
structure Opening (s : Tenure) : Prop where
  connects : s.connects = 1
  threads : s.threads + (if s.call.isEarly then 1 else 0) ≤ 1
  farewells : s.farewells = []
  asked : ∃ state, s.asked = some (.connect, state)
  underWay : s.call.isOver = false
  transport : s.call ≠ .connect → s.manager.transport = none
  coherent : s.session.Coherent
  watched : s.session.Watched
  alone : s.session.closers = []
  phase : s.session.Phase s.call
  shown : isHopeful s.call → ∀ t, s.manager.thread = some t →
    Loop.Shown t.loop s.session.deeds s.manager.signal.state

/-- The first call to connect has returned. -/
structure Opened (s : Tenure) : Prop where
  connects : 1 ≤ s.connects
  threads : s.threads ≤ 1
  transport : s.manager.transport = none
  coherent : s.session.unattended.Coherent

/-- How far a call has come after the session was established. -/
def Turn (s : Tenure) : Manager.Call → Prop
  | .connect | .returned _ =>
    s.manager.joinable ∧ s.farewells = [] ∧ ∃ state, s.asked = some (.connect, state)
  | .disconnect => s.manager.joinable ∧ s.farewells = [] ∧
    ∃ state, s.asked = some (.disconnect, state) ∧
      (s.manager.state = .connected → state = .connected)
  | .bye => s.manager.joinable ∧ s.farewells = [] ∧ s.asked = some (.disconnect, .connected)
  | .stop _ | .claim _ => s.manager.joinable ∧ s.Parted
  | .join _ => s.manager.joinable = false ∧ s.Parted
  | .reset _ => s.manager.joinable = false ∧ s.Parted ∧
    ∀ t, s.manager.thread = some t → t.loop.stage = .gone
  | _ => False

/-- The session was established, and nobody has torn it down. -/
structure Held (s : Tenure) : Prop where
  opened : s.Opened
  bears : ∃ t, s.manager.thread = some t ∧ t.loop.connected ∧
    Loop.Shown t.loop s.session.deeds s.manager.signal.state
  turn : s.Turn s.call

/-- The session has come to its end. -/
structure Ended (s : Tenure) : Prop where
  opened : s.Opened
  parted : s.Parted
  rest : s.session.unattended.AtRest
  joinable : s.manager.joinable = false
  onward : s.call = .connect ∨ s.call.isClosing
  quiet : s.call ≠ .bye

inductive Era (m : Manager) (now : Instant) (s : Tenure) : Prop where
  | unopened (unopened : s.Unopened m now)
  | opening (opening : s.Opening)
  | held (held : s.Held)
  | ended (ended : s.Ended)

/-! ## Before the first call to connect -/

theorem Unopened.start (m : Manager) (now : Instant) : (start m now).Unopened m now where
  connects := rfl
  threads := rfl
  farewells := rfl
  session := ⟨0, m.link, now, .returned (.ok ()), rfl, Instant.le_refl _, rfl, nofun⟩

theorem Unopened.open (unopened : s.Unopened m now) (unused : m.Unused) :
    (s.ask .connect).Opening := by
  obtain ⟨none, unstarted, silent, k, link, later, call, session, onward, -⟩ := unopened
  have unused' : Manager.Unused { m with link, stops := m.stops + k } :=
    ⟨unused.signal, unused.transport, unused.thread, unused.joinable⟩
  have run : (Ensemble.start { m with link, stops := m.stops + k } now).run? [.pass later] =
      some (s.ask .connect).session := by
    rw [Ensemble.run?, List.foldlM_cons, Ensemble.step?, ask, session]
    exact congrArg (Option.bind · _) (if_pos onward)
  obtain ⟨coherent, watched⟩ := Ensemble.watched_of_run unused' run
  have alone : s.session.closers = [] := by rw [session]; rfl
  exact
    { connects := congrArg (· + 1) none
      threads := Nat.le_of_eq (congrArg (· + 1) unstarted)
      farewells := silent
      asked := ⟨_, rfl⟩
      underWay := rfl
      transport := fun late => absurd rfl late
      coherent, watched, alone
      phase := Ensemble.phase_of_run unused' run alone
      shown := fun hopeful => by cases hopeful }

/-- A call to disconnect changes nothing but how often a stop has been requested. -/
theorem idle_goOn {k : Nat} {link : Link} {later : Instant} {c call : Manager.Call}
    {spawned : Except String Unit} {manager : Manager} (unused : m.Unused) (closing : c.isClosing)
    (quiet : c ≠ .bye)
    (steps : (idle m now k link later c).manager.Steps spawned later 0 c call manager) :
    (∃ k, (idle m now k link later c).goOn (call, manager) = idle m now k link later call) ∧
      call.isClosing ∧ call ≠ .bye := by
  obtain ⟨options, policy, link₀, signal, transport, stops, thread, joinable⟩ := m
  obtain ⟨rfl, -, rfl, rfl⟩ := unused
  cases steps with
  | part connected => cases connected
  | claim joinable => cases joinable
  | bye => exact absurd rfl quiet
  | proceed | skip | join | reset => exact ⟨⟨k, rfl⟩, rfl, nofun⟩
  | stop => exact ⟨⟨k + 1, rfl⟩, rfl, nofun⟩
  | sleep awaits | succeed awaits | giveUp awaits => rcases awaits with rfl | rfl <;> cases closing
  | _ => cases closing

theorem started_of_closing {c call : Manager.Call} (closing : c.isClosing) :
    started c call = 0 := by
  cases c with
  | spawn => cases closing
  | _ => rfl

theorem Unopened.step (unopened : s.Unopened m now) (unused : m.Unused) (h : Advances s s') :
    s'.Era m now := by
  obtain ⟨none, unstarted, silent, k, link, later, call, session, onward, closing, quiet⟩ :=
    unopened
  have here : s.call = call := congrArg (·.opener) session
  cases h with
  | @ask demand free =>
    have asked : (s.ask demand).session = idle m now k link later demand.call := by
      rw [ask, session]
      rfl
    cases demand with
    | connect =>
      exact .opening (Unopened.open ⟨none, unstarted, silent, k, link, later, call, session, onward,
        closing, quiet⟩ unused)
    | disconnect | drop =>
      exact .unopened ⟨none, unstarted, silent, k, link, later, _, asked, onward, rfl, nofun⟩
  | @go spawned next manager steps =>
    rw [here, Tenure.manager, session] at steps
    obtain ⟨⟨k, goes⟩, closing', quiet'⟩ := idle_goOn unused closing quiet steps
    refine .unopened ⟨none, ?_, ?_, k, link, later, next, ?_, onward, closing', quiet'⟩
    · rw [goOn, here, unstarted]
      exact (Nat.zero_add _).trans (started_of_closing closing)
    · rw [goOn, silent, parting_of_quiet (here ▸ quiet)]
      rfl
    · rw [goOn, session]
      exact goes
  | beside drifts =>
    rw [session] at drifts
    cases drifts with
    | pass later =>
      exact .unopened ⟨none, unstarted, silent, k, link, _, call, rfl,
        Instant.le_trans onward later, closing, quiet⟩
    | launch thread | react thread => cases unused.thread.symm.trans thread
    | carryOut underway => cases underway
    | relink link =>
      exact .unopened ⟨none, unstarted, silent, k, link, later, call, rfl, onward, closing, quiet⟩

/-! ## During the first call to connect -/

section

variable {spawned : Except String Unit} {c call : Manager.Call} {manager : Manager} {id : Nat}

/-- The transport is taken once. -/
theorem transport_of_steps (steps : m.Steps spawned now id c call manager)
    (spent : c ≠ .connect → m.transport = none) : manager.transport = none := by
  cases steps with
  | refuse taken => exact taken
  | take => rfl
  | sleep awaits | succeed awaits | giveUp awaits =>
    rcases awaits with rfl | rfl <;> exact spent nofun
  | _ => exact spent nofun

/-- A call that has not started a thread yet still may. -/
theorem started_of_steps (steps : m.Steps spawned now id c call manager) :
    started c call + (if call.isEarly then 1 else 0) ≤ if c.isEarly then 1 else 0 := by
  cases steps with
  | sleep awaits | succeed awaits | giveUp awaits =>
    rcases awaits with rfl | rfl <;> exact Nat.le_refl _
  | _ => simp [started, Manager.Call.isEarly]

theorem Opening.quiet (opening : s.Opening) : s.call ≠ .bye := fun bye => by
  have phase := opening.phase
  rw [bye] at phase
  exact phase

/-- As long as a call may succeed, the state shows what its thread did. -/
theorem Opening.shows (opening : s.Opening)
    (steps : s.manager.Steps spawned s.session.now 0 s.call call manager)
    (hopeful : isHopeful call) :
    ∀ t, manager.thread = some t → Loop.Shown t.loop s.session.deeds manager.signal.state := by
  obtain ⟨⟨m, now, c, closers, opened, underway, deeds⟩, asked, connects, threads, farewells⟩ := s
  intro t thread
  cases steps with
  | spawn =>
    obtain ⟨none, -⟩ := opening.coherent.absent (opening.coherent.early rfl)
    change deeds = [] at none
    cases thread
    rw [none]
    exact .begun
  | keep => exact opening.shown rfl t thread
  | sleep awaits _ turn | succeed awaits _ turn =>
    have shown := opening.shown (by rcases awaits with rfl | rfl <;> rfl) t thread
    exact turn.state.symm ▸ shown
  | reset result =>
    cases result with
    | ok => exact opening.phase.elim
    | error => cases hopeful
  | _ => cases hopeful

theorem Opening.succeeds (opening : s.Opening)
    (steps : s.manager.Steps spawned s.session.now 0 s.call (.returned (.ok ())) manager) :
    manager.joinable := by
  obtain ⟨⟨m, now, c, closers, opened, underway, deeds⟩, asked, connects, threads, farewells⟩ := s
  cases steps with
  | succeed awaits =>
    have phase := opening.phase
    rcases awaits with rfl | rfl <;> exact phase.2.2
  | reset => exact opening.phase.elim

theorem Opening.goOn (opening : s.Opening)
    (steps : s.manager.Steps spawned s.session.now 0 s.call call manager) :
    (s.goOn (s.session.goOn (call, manager))).Era m now := by
  have coherent := opening.coherent.connect steps
  have phase := opening.phase.connect opening.coherent steps
  have watched := opening.watched.step opening.coherent (.connect steps)
  have transport := transport_of_steps steps opening.transport
  have begun := started_of_steps steps
  have threads := opening.threads
  have farewells : s.farewells ++ s.parting = [] := by
    rw [opening.farewells, parting_of_quiet opening.quiet]
    rfl
  have shows := opening.shows steps
  cases finished : call.isOver with
  | false =>
    exact .opening
      { connects := opening.connects
        threads := by
          change s.threads + started s.call call + (if call.isEarly then 1 else 0) ≤ 1
          omega
        farewells, asked := opening.asked, underWay := finished, transport := fun _ => transport
        coherent, watched, alone := opening.alone, phase, shown := shows }
  | true =>
    have opened : (s.goOn (s.session.goOn (call, manager))).Opened :=
      { connects := Nat.le_of_eq opening.connects.symm
        threads := by
          change s.threads + started s.call call ≤ 1
          omega
        transport, coherent := coherent.unattended finished }
    cases call with
    | returned result =>
      cases result with
      | ok =>
        obtain ⟨d, done, success⟩ := phase
        cases thread : manager.thread with
        | none =>
          -- A call does not succeed without a thread.
          obtain ⟨nothing, -⟩ := coherent.absent thread
          rw [nothing] at done
          cases done
        | some t =>
          have connected := (coherent.lived t thread).connected_iff.mpr ⟨d, done, success⟩
          exact .held ⟨opened, ⟨t, thread, connected, shows rfl t thread⟩,
            opening.succeeds steps, farewells, opening.asked⟩
      | error fault =>
        obtain ⟨-, rest⟩ := phase
        exact .ended
          { opened, parted := .of_nil farewells
            rest := ⟨rfl, rest.thread, rest.idle, rest.state⟩
            joinable := watched.withheld rfl
            onward := .inr rfl
            quiet := nofun }
    | _ => cases finished

theorem Opening.step (opening : s.Opening) (h : Advances s s') : s'.Era m now := by
  cases h with
  | ask free =>
    obtain ⟨finished, -⟩ := Bool.and_eq_true_iff.mp free
    exact absurd finished (ne_true_of_eq_false opening.underWay)
  | go steps => exact opening.goOn steps
  | @beside session drifts =>
    obtain ⟨opener, closers, transport, -⟩ := drifts.same
    have advances := drifts.here
    have alone := closers.trans opening.alone
    have phase := Ensemble.Phase.step opening.phase opening.coherent advances alone
    have same : ({ s with session } : Tenure).call = s.call := opener
    exact .opening
      { opening with
        threads := same.symm ▸ opening.threads
        underWay := same.symm ▸ opening.underWay
        transport := fun late => transport.trans (opening.transport (same ▸ late))
        coherent := opening.coherent.step advances
        watched := opening.watched.step opening.coherent advances
        alone, phase
        shown := fun hopeful => drifts.shown opening.coherent (opening.shown (same ▸ hopeful)) }

/-! ## After the first call to connect -/

theorem Opened.refused (opened : s.Opened)
    (steps : s.manager.Steps spawned s.session.now 0 .connect call manager) :
    call = .returned (.error Manager.startedFault) ∧ manager = s.manager := by
  cases steps with
  | refuse => exact ⟨rfl, rfl⟩
  | take found => cases opened.transport.symm.trans found
  | sleep awaits | succeed awaits | giveUp awaits =>
    rcases awaits with first | first <;> cases first

theorem Opened.ask (opened : s.Opened) (demand : Demand) : (s.ask demand).Opened where
  connects := Nat.le_add_right_of_le opened.connects
  threads := opened.threads
  transport := opened.transport
  coherent := opened.coherent

theorem Opened.goOn (opened : s.Opened) (onward : s.call = .connect ∨ s.call.isClosing)
    (steps : s.manager.Steps spawned s.session.now 0 s.call call manager) :
    (s.goOn (s.session.goOn (call, manager))).Opened := by
  have begun := started_of_steps steps
  have transport := transport_of_steps steps fun _ => opened.transport
  rcases onward with first | closing
  · rw [first] at steps
    obtain ⟨rfl, rfl⟩ := opened.refused steps
    have coherent := opened.coherent
    exact
      { connects := opened.connects
        threads := by
          rw [Tenure.goOn, first]
          exact opened.threads
        transport
        coherent := ⟨coherent.early, coherent.absent, coherent.untaken, coherent.lived,
          coherent.underway, coherent.closers⟩ }
  · exact
      { connects := opened.connects
        threads := by
          change s.threads + started s.call call ≤ 1
          rw [started_of_closing closing]
          exact opened.threads
        transport
        coherent := opened.coherent.goOn_unattended closing steps }

theorem Opened.beside (opened : s.Opened) {session : Ensemble} (drifts : s.session.Drifts session) :
    ({ s with session } : Tenure).Opened where
  connects := opened.connects
  threads := opened.threads
  transport := drifts.same.2.2.1.trans opened.transport
  coherent := opened.coherent.step (drifts.advances _ _)

theorem farewells_goOn (quiet : s.call ≠ .bye) (session : Ensemble) :
    (s.goOn session).farewells = s.farewells := by
  rw [Tenure.goOn, parting_of_quiet quiet, List.append_nil]

theorem Parted.goOn (parted : s.Parted) (quiet : s.call ≠ .bye) (session : Ensemble) :
    (s.goOn session).Parted := by
  rw [Parted, farewells_goOn quiet]
  exact parted

/-- Only a call that finds a session asks for its end. -/
theorem quiet_of_steps (steps : m.Steps spawned now id c call manager)
    (unconnected : m.signal.state ≠ .connected) : call ≠ .bye := by
  rintro rfl
  cases steps with
  | part connected => exact unconnected connected

theorem Ended.ask (ended : s.Ended) (demand : Demand) : (s.ask demand).Ended where
  opened := ended.opened.ask demand
  parted := ended.parted
  rest := ended.rest
  joinable := ended.joinable
  onward := by
    cases demand with
    | connect => exact .inl rfl
    | disconnect | drop => exact .inr rfl
  quiet := by cases demand <;> exact nofun

theorem Ended.goOn (ended : s.Ended)
    (steps : s.manager.Steps spawned s.session.now 0 s.call call manager) :
    (s.goOn (s.session.goOn (call, manager))).Ended := by
  have opened := ended.opened.goOn ended.onward steps
  have parted := ended.parted.goOn ended.quiet (s.session.goOn (call, manager))
  have unconnected : s.manager.signal.state ≠ .connected := fun connected => by
    cases ended.rest.state.symm.trans connected
  have quiet : call ≠ .bye := quiet_of_steps steps unconnected
  rcases ended.onward with first | closing
  · rw [first] at steps
    obtain ⟨rfl, rfl⟩ := ended.opened.refused steps
    exact ⟨opened, parted, ⟨rfl, ended.rest.thread, ended.rest.idle, ended.rest.state⟩,
      ended.joinable, .inr rfl, quiet⟩
  · obtain ⟨closing', thread, -, state⟩ := steps.closing closing
    have disconnected : manager.signal.state = .disconnected :=
      state.elim (·.trans ended.rest.state) id
    exact
      { opened, parted, quiet
        rest := ⟨rfl, fun t there => ended.rest.thread t (thread.symm.trans there),
          ended.rest.idle, disconnected⟩
        joinable := steps.taken (Manager.Call.isKept_of_isClosing closing) ended.joinable
        onward := .inr closing' }

theorem Ended.step (ended : s.Ended) (h : Advances s s') : s'.Ended := by
  cases h with
  | ask => exact ended.ask _
  | go steps => exact ended.goOn steps
  | beside drifts =>
    obtain ⟨opener, -, -, joinable⟩ := drifts.same
    have same : ({ s with session := _ } : Tenure).call = s.call := opener
    exact
      { opened := ended.opened.beside drifts
        parted := ended.parted
        rest := ended.rest.step ended.opened.coherent (drifts.advances _ _)
        joinable := joinable.trans ended.joinable
        onward := same.symm ▸ ended.onward
        quiet := same.symm ▸ ended.quiet }

theorem Turn.onward (turn : s.Turn c) : c = .connect ∨ c.isClosing := by
  cases c with
  | connect => exact .inl rfl
  | disconnect | bye | stop | claim | join | reset | returned => exact .inr rfl
  | _ => exact turn.elim

theorem Turn.kept (turn : s.Turn c) (joinable : s'.manager.joinable = s.manager.joinable)
    (farewells : s'.farewells = s.farewells) (asked : s'.asked = s.asked)
    (state : s'.manager.state = .connected → s.manager.state = .connected)
    (gone : (∀ t, s.manager.thread = some t → t.loop.stage = .gone) →
      ∀ t, s'.manager.thread = some t → t.loop.stage = .gone) : s'.Turn c := by
  have parted (parted : s.Parted) : s'.Parted := by rwa [Parted, farewells]
  cases c with
  | connect | returned | bye =>
    exact ⟨joinable.trans turn.1, farewells.trans turn.2.1, asked ▸ turn.2.2⟩
  | disconnect =>
    obtain ⟨held, silent, found, same, called⟩ := turn
    exact ⟨joinable.trans held, farewells.trans silent, found, asked.trans same, called ∘ state⟩
  | stop | claim | join => exact ⟨joinable.trans turn.1, parted turn.2⟩
  | reset => exact ⟨joinable.trans turn.1, parted turn.2.1, gone turn.2.2⟩
  | _ => exact turn.elim

theorem Held.ask (held : s.Held) (free : s.isFree) (demand : Demand) : (s.ask demand).Held := by
  obtain ⟨finished, -⟩ := Bool.and_eq_true_iff.mp free
  have turn := held.turn
  cases stage : s.call with
  | returned result =>
    rw [stage] at turn
    obtain ⟨joinable, silent, -⟩ := turn
    refine ⟨held.opened.ask demand, held.bears, ?_⟩
    cases demand with
    | connect => exact ⟨joinable, silent, _, rfl⟩
    | disconnect => exact ⟨joinable, silent, _, rfl, id⟩
    | drop => exact ⟨joinable, .of_nil silent⟩
  | _ =>
    rw [stage] at finished
    cases finished

/-- The request for the end of a session is the first one. -/
theorem Parted.of_bye (silent : s.farewells = []) (asked : s.asked = some (.disconnect, .connected))
    (session : Ensemble) : (s.goOn session).Parted := by
  rw [Parted, Tenure.goOn, silent, List.nil_append]
  unfold parting
  split
  · exact ⟨Nat.le_refl 1, fun other there => (List.mem_singleton.mp there).trans asked⟩
  · exact ⟨Nat.zero_le 1, nofun⟩

theorem Held.goOn (held : s.Held)
    (steps : s.manager.Steps spawned s.session.now 0 s.call call manager) :
    (s.goOn (s.session.goOn (call, manager))).Era m now := by
  have opened := held.opened.goOn held.turn.onward steps
  have turn := held.turn
  have bears := held.bears
  have quietly (quiet : s.call ≠ .bye) := farewells_goOn quiet (s.session.goOn (call, manager))
  obtain ⟨⟨m, now, c, closers, began, underway, deeds⟩, asked, connects, threads, farewells⟩ := s
  cases steps with
  | refuse =>
    obtain ⟨joinable, silent, same⟩ := turn
    exact .held ⟨opened, bears, joinable, (quietly nofun).trans silent, same⟩
  | take found => cases held.opened.transport.symm.trans found
  | part connected =>
    obtain ⟨joinable, silent, state, same, found⟩ := turn
    obtain rfl := found connected
    exact .held ⟨opened, bears, joinable, (quietly nofun).trans silent, same⟩
  | proceed =>
    obtain ⟨joinable, silent, -⟩ := turn
    exact .held ⟨opened, bears, joinable, .of_nil ((quietly nofun).trans silent)⟩
  | bye link =>
    obtain ⟨joinable, silent, same⟩ := turn
    exact .held ⟨opened, bears, joinable, .of_bye silent same _⟩
  | stop result =>
    obtain ⟨joinable, parted⟩ := turn
    exact .held ⟨opened, bears, joinable, parted.goOn nofun _⟩
  | claim =>
    obtain ⟨-, parted⟩ := turn
    exact .held ⟨opened, bears, rfl, parted.goOn nofun _⟩
  | skip claimed => exact absurd turn.1 (ne_true_of_eq_false claimed)
  | join gone =>
    obtain ⟨taken, parted⟩ := turn
    exact .held ⟨opened, bears, taken, parted.goOn nofun _, gone⟩
  | reset result =>
    obtain ⟨taken, parted, gone⟩ := turn
    exact .ended
      { opened, parted := parted.goOn nofun _, joinable := taken, onward := .inr rfl, quiet := nofun
        rest := ⟨rfl, gone, held.opened.coherent.idle_of_gone gone, rfl⟩ }
  | sleep awaits | succeed awaits | giveUp awaits =>
    rcases awaits with rfl | rfl <;> exact turn.elim
  | _ => exact turn.elim

theorem Held.beside (held : s.Held) {session : Ensemble} (drifts : s.session.Drifts session) :
    ({ s with session } : Tenure).Held := by
  have opened := held.opened.beside drifts
  obtain ⟨t, thread, connected, shown⟩ := held.bears
  have shows := drifts.shown held.opened.coherent fun t' there => by
    cases thread.symm.trans there
    exact shown
  cases drifts with
  | pass | react | relink =>
    exact ⟨opened, held.bears, held.turn.kept rfl rfl rfl id id⟩
  | launch there fresh =>
    cases thread.symm.trans there
    have lived : Loop.Lived _ t.loop s.session.deeds := held.opened.coherent.lived t thread
    rw [lived.eq_of_nil fresh] at connected
    cases connected
  | @carryOut t' d effect underway there =>
    cases thread.symm.trans there
    have coherent := held.opened.coherent
    obtain ⟨before, reacted⟩ := coherent.underway d effect underway t thread
    have r := Loop.reacts_of_react? (coherent.lived t thread).calm reacted
    refine ⟨opened, ⟨_, rfl, r.connected_iff.mpr (.inl connected), shows _ rfl⟩,
      held.turn.kept rfl rfl rfl (r.connected_before connected shown) fun gone => ?_⟩
    cases (coherent.idle_of_gone gone).symm.trans underway

theorem Held.step (held : s.Held) (h : Advances s s') : s'.Era m now := by
  cases h with
  | ask free => exact .held (held.ask free _)
  | go steps => exact held.goOn steps
  | beside drifts => exact .held (held.beside drifts)

end

theorem era_of_run (unused : m.Unused) (run : (start m now).run? moves = some s) : s.Era m now := by
  refine foldlM_keeps (P := fun s => s.Era m now) (fun era h => ?_) (.unopened (.start m now)) run
  have advances := advances_of_step? h
  cases era with
  | unopened unopened => exact unopened.step unused advances
  | opening opening => exact opening.step advances
  | held held => exact held.step advances
  | ended ended => exact .ended (ended.step advances)

end Tenure

end Courier
