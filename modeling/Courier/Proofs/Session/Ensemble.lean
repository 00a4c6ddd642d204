import Courier.Proofs.Run
import Courier.Proofs.Session.Call

/-!
# Calls and a network thread at work on one session

A call to connect, calls to disconnect and the network thread, each going on at any time by one
atomic step. What the thread decides to do it does in a step of its own, so that calls may
come between. It may also read the clock only long after it was started.
-/

namespace Courier

structure Ensemble where
  manager : Manager
  now : Instant
  /-- The call to connect. -/
  opener : Manager.Call
  /-- The calls to disconnect, in the order in which they came. -/
  closers : List Manager.Call
  /-- When the call to connect took the transport. -/
  opened : Instant
  /-- What the thread has decided to do and not done yet. -/
  underway : Option (Loop.Deed × Effect)
  /-- What it did, the latest last. -/
  deeds : List Loop.Deed

namespace Ensemble

def start (m : Manager) (now : Instant) : Ensemble := ⟨m, now, .connect, [], now, none, []⟩

inductive Move where
  /-- The clock goes on. -/
  | pass (later : Instant)
  /-- The next step of the call to connect; it depends on whether a thread can be had. -/
  | connect (spawned : Except String Unit)
  /-- The call to connect wakes up for no reason. -/
  | stir
  /-- A call to disconnect comes. -/
  | disconnect
  /-- The next step of a call to disconnect. -/
  | close (i : Nat)
  /-- The thread reads the clock, before it does anything else. -/
  | launch
  /-- The thread decides what to do. -/
  | react (stimulus : Stimulus)
  /-- It does what it has decided. -/
  | carryOut
  /-- What the link holds changes on its own. -/
  | relink (link : Link)

def openedBy (s : Ensemble) : Instant :=
  match s.opener with
  | .connect => s.now
  | _ => s.opened

/-- The call to connect goes on to its next step. -/
def goOn (s : Ensemble) : Manager.Call × Manager → Ensemble
  | (opener, manager) => { s with manager, opener, opened := s.openedBy }

/-- Whether a thread has not been asked to stop since it began to listen. -/
def isUnasked (m : Manager) (t : NetworkThread) : Stimulus → Bool
  | .shutdown => m.stops ≤ t.heard
  | _ => false

def step? (s : Ensemble) : Move → Option Ensemble
  | .pass later => if s.now ≤ later then some { s with now := later } else none
  | .connect spawned =>
    (s.manager.step? spawned s.now 0 s.opener).map s.goOn
  | .stir =>
    match s.opener with
    | .asleep deadline => (s.manager.signal.step? s.now (.stir 0)).map fun woken =>
      s.goOn (s.manager.settleWait (.asleep deadline) woken)
    | _ => none
  | .disconnect => some { s with closers := s.closers ++ [.disconnect] }
  | .close i => s.closers[i]?.bind fun call =>
    (s.manager.step? (.ok ()) s.now 0 call).map fun (next, manager) =>
      { s with manager, closers := s.closers.set i next }
  | .launch =>
    if s.deeds.isEmpty ∧ s.underway.isNone then
      s.manager.thread.map fun t =>
        { s with manager.thread := some { t with loop := .fresh s.manager.policy s.now } }
    else none
  | .react stimulus => s.manager.thread.bind fun t =>
    if s.underway.isNone ∧ isUnasked s.manager t stimulus = false then
      (t.loop.react? s.now stimulus).map fun (loop, effect) =>
        { s with underway := some (⟨s.now, t.loop, stimulus, loop⟩, effect) }
    else none
  | .carryOut => s.underway.bind fun (d, effect) => s.manager.thread.map fun t =>
    { s with
      manager.thread := some { t with loop := d.after }
      manager.signal := effect.on s.now s.manager.signal
      underway := none
      deeds := s.deeds ++ [d] }
  | .relink link => some { s with manager.link := link }

def run? (moves : List Move) (s : Ensemble) : Option Ensemble := moves.foldlM step? s

/-- Everything that a move can do. -/
inductive Advances (s : Ensemble) : Ensemble → Prop where
  | pass {later : Instant} (onward : s.now ≤ later) : Advances s { s with now := later }
  | connect {spawned : Except String Unit} {opener : Manager.Call} {manager : Manager}
      (steps : s.manager.Steps spawned s.now 0 s.opener opener manager) :
      Advances s (s.goOn (opener, manager))
  | disconnect : Advances s { s with closers := s.closers ++ [.disconnect] }
  | close {i : Nat} {call next : Manager.Call} {manager : Manager}
      (there : s.closers[i]? = some call)
      (steps : s.manager.Steps (.ok ()) s.now 0 call next manager) :
      Advances s { s with manager, closers := s.closers.set i next }
  | launch {t : NetworkThread} (thread : s.manager.thread = some t) (fresh : s.deeds = [])
      (idle : s.underway = none) :
      Advances s { s with manager.thread := some { t with loop := .fresh s.manager.policy s.now } }
  | react {t : NetworkThread} {stimulus : Stimulus} {loop : Loop} {effect : Effect}
      (thread : s.manager.thread = some t) (idle : s.underway = none)
      (asked : stimulus = .shutdown → t.heard < s.manager.stops)
      (reacted : t.loop.react? s.now stimulus = some (loop, effect)) :
      Advances s { s with underway := some (⟨s.now, t.loop, stimulus, loop⟩, effect) }
  | carryOut {t : NetworkThread} {d : Loop.Deed} {effect : Effect}
      (underway : s.underway = some (d, effect)) (thread : s.manager.thread = some t) :
      Advances s
        { s with
          manager.thread := some { t with loop := d.after }
          manager.signal := effect.on s.now s.manager.signal
          underway := none
          deeds := s.deeds ++ [d] }
  | relink (link : Link) : Advances s { s with manager.link := link }

/-- Everything that can happen beside the calls. -/
inductive Drifts (s : Ensemble) : Ensemble → Prop where
  | pass {later : Instant} (onward : s.now ≤ later) : Drifts s { s with now := later }
  | launch {t : NetworkThread} (thread : s.manager.thread = some t) (fresh : s.deeds = [])
      (idle : s.underway = none) :
      Drifts s { s with manager.thread := some { t with loop := .fresh s.manager.policy s.now } }
  | react {t : NetworkThread} {stimulus : Stimulus} {loop : Loop} {effect : Effect}
      (thread : s.manager.thread = some t) (idle : s.underway = none)
      (asked : stimulus = .shutdown → t.heard < s.manager.stops)
      (reacted : t.loop.react? s.now stimulus = some (loop, effect)) :
      Drifts s { s with underway := some (⟨s.now, t.loop, stimulus, loop⟩, effect) }
  | carryOut {t : NetworkThread} {d : Loop.Deed} {effect : Effect}
      (underway : s.underway = some (d, effect)) (thread : s.manager.thread = some t) :
      Drifts s
        { s with
          manager.thread := some { t with loop := d.after }
          manager.signal := effect.on s.now s.manager.signal
          underway := none
          deeds := s.deeds ++ [d] }
  | relink (link : Link) : Drifts s { s with manager.link := link }

/-- Whether a move is none of a call. -/
def Move.isDrift : Move → Bool
  | .pass _ | .launch | .react _ | .carryOut | .relink _ => true
  | _ => false

variable {s s' : Ensemble} {move : Move} {moves : List Move}

theorem drifts_of_step? (drift : move.isDrift) (h : s.step? move = some s') : s.Drifts s' := by
  cases move with
  | pass later =>
    simp only [step?] at h
    split at h
    · rename_i onward
      cases h
      exact .pass onward
    · cases h
  | launch =>
    simp only [step?] at h
    split at h
    · rename_i idle
      obtain ⟨t, thread, rfl⟩ := Option.map_eq_some_iff.mp h
      exact .launch thread (List.isEmpty_iff.mp idle.1) (Option.isNone_iff_eq_none.mp idle.2)
    · cases h
  | react stimulus =>
    obtain ⟨t, thread, decided⟩ := Option.bind_eq_some_iff.mp h
    split at decided
    · rename_i idle
      obtain ⟨⟨loop, effect⟩, reacted, rfl⟩ := Option.map_eq_some_iff.mp decided
      refine .react thread (Option.isNone_iff_eq_none.mp idle.1) ?_ reacted
      rintro rfl
      simpa [isUnasked] using idle.2
    · cases decided
  | carryOut =>
    obtain ⟨⟨d, effect⟩, underway, done⟩ := Option.bind_eq_some_iff.mp h
    obtain ⟨t, thread, rfl⟩ := Option.map_eq_some_iff.mp done
    exact .carryOut underway thread
  | relink link =>
    cases h
    exact .relink link
  | connect | stir | disconnect | close => cases drift

/-- It happens whatever calls there are. -/
theorem Drifts.advances (h : s.Drifts s') (opener : Manager.Call) (closers : List Manager.Call) :
    Advances { s with opener, closers } { s' with opener, closers } := by
  cases h with
  | pass onward => exact .pass onward
  | launch thread fresh idle => exact .launch thread fresh idle
  | react thread idle asked reacted => exact .react thread idle asked reacted
  | carryOut underway thread => exact .carryOut underway thread
  | relink link => exact .relink link

theorem Drifts.same (h : s.Drifts s') : s'.opener = s.opener ∧ s'.closers = s.closers ∧
    s'.manager.transport = s.manager.transport ∧ s'.manager.joinable = s.manager.joinable := by
  cases h <;> exact ⟨rfl, rfl, rfl, rfl⟩

theorem Drifts.here (h : s.Drifts s') : Advances s s' := by
  obtain ⟨manager, now, opener, closers, opened, underway, deeds⟩ := s'
  obtain ⟨rfl, rfl, -⟩ := h.same
  exact h.advances s.opener s.closers

theorem advances_of_step? (h : s.step? move = some s') : Advances s s' := by
  cases move with
  | connect spawned =>
    obtain ⟨⟨opener, manager⟩, stepped, rfl⟩ := Option.map_eq_some_iff.mp h
    exact .connect (Manager.steps_of_step? stepped)
  | stir =>
    simp only [step?] at h
    split at h
    · rename_i deadline asleep
      obtain ⟨woken, stirred, rfl⟩ := Option.map_eq_some_iff.mp h
      have steps : s.manager.Steps (.ok ()) s.now 0 s.opener _ _ :=
        Manager.steps_of_wait (.inr asleep) rfl (fun w same => by cases same) stirred
      exact .connect steps
    · cases h
  | disconnect =>
    cases h
    exact .disconnect
  | close i =>
    obtain ⟨call, there, closed⟩ := Option.bind_eq_some_iff.mp h
    obtain ⟨⟨next, manager⟩, stepped, rfl⟩ := Option.map_eq_some_iff.mp closed
    exact .close there (Manager.steps_of_step? stepped)
  | pass | launch | react | carryOut | relink => exact (drifts_of_step? rfl h).here

/-! ## What holds at every moment -/

/-- Nobody is at work on the session, and it does not look as if there were one. -/
structure AtRest (s : Ensemble) : Prop where
  opener : s.opener.isOver
  thread : ∀ t, s.manager.thread = some t → t.loop.stage = .gone
  idle : s.underway = none
  state : s.manager.state = .disconnected

structure Coherent (s : Ensemble) : Prop where
  /-- A thread is there only once the call to connect has started it. -/
  early : s.opener.isEarly → s.manager.thread = none
  absent : s.manager.thread = none → s.deeds = [] ∧ s.underway = none ∧
    (s.opener.isEarly ∨ s.opener.isOver ∧ s.manager.signal.state = .disconnected)
  untaken : s.opener = .connect → s.manager.transport ≠ none
  lived : ∀ t, s.manager.thread = some t →
    Loop.Lived (.fresh s.manager.policy t.loop.started) t.loop s.deeds
  underway : ∀ d effect, s.underway = some (d, effect) → ∀ t, s.manager.thread = some t →
    d.before = t.loop ∧ t.loop.react? d.now d.stimulus = some (d.after, effect)
  closers : ∀ c ∈ s.closers, c.isClosing

theorem Coherent.start {m : Manager} (unused : m.Unused) (now : Instant) :
    (start m now).Coherent where
  early _ := unused.thread
  absent _ := ⟨rfl, rfl, .inl rfl⟩
  untaken _ := unused.transport
  lived t thread := by
    rw [show (Ensemble.start m now).manager.thread = none from unused.thread] at thread
    cases thread
  underway _ _ underway := by cases underway
  closers _ there := by cases there

theorem Coherent.not_early (coherent : s.Coherent) {t : NetworkThread}
    (thread : s.manager.thread = some t) : s.opener.isEarly = false := by
  refine eq_false_of_ne_true fun early => ?_
  cases (coherent.early early).symm.trans thread

theorem Coherent.connect (coherent : s.Coherent) {spawned : Except String Unit}
    {opener : Manager.Call} {manager : Manager}
    (steps : s.manager.Steps spawned s.now 0 s.opener opener manager) :
    (s.goOn (opener, manager)).Coherent := by
  refine ⟨fun early => ?_, fun none => ?_, fun first => absurd first steps.not_connect,
    fun t thread => ?_, fun d effect underway t thread => ?_, coherent.closers⟩
  · obtain ⟨early, same⟩ := steps.early early
    exact same.trans (coherent.early early)
  · by_cases early : s.opener.isEarly
    · obtain ⟨deeds, idle, -⟩ := coherent.absent (coherent.early early)
      exact ⟨deeds, idle, steps.absent early coherent.untaken none⟩
    · -- A call that has its thread and goes on cannot be without one.
      have late := eq_false_of_ne_true early
      have never := (steps.thread late).symm.trans none
      obtain ⟨-, -, still | ⟨finished, -⟩⟩ := coherent.absent never
      · exact absurd still early
      · exact absurd finished (ne_true_of_eq_false steps.not_over)
  · change manager.thread = some t at thread
    rw [show (s.goOn (opener, manager)).manager.policy = s.manager.policy from steps.policy]
    by_cases early : s.opener.isEarly
    · have none := coherent.early early
      obtain ⟨deeds, -⟩ := coherent.absent none
      rcases steps.started with same | ⟨t', started, fresh, -⟩
      · rw [same, none] at thread
        cases thread
      · cases started.symm.trans thread
        change Loop.Lived _ t.loop s.deeds
        rw [deeds, ← fresh]
        exact .begun
    · exact coherent.lived t ((steps.thread (eq_false_of_ne_true early)).symm.trans thread)
  · by_cases early : s.opener.isEarly
    · obtain ⟨-, idle, -⟩ := coherent.absent (coherent.early early)
      cases idle.symm.trans underway
    · exact coherent.underway d effect underway t
        ((steps.thread (eq_false_of_ne_true early)).symm.trans thread)

theorem Coherent.close (coherent : s.Coherent) {i : Nat} {call next : Manager.Call}
    {manager : Manager} (there : s.closers[i]? = some call)
    (steps : s.manager.Steps (.ok ()) s.now 0 call next manager) :
    ({ s with manager, closers := s.closers.set i next } : Ensemble).Coherent := by
  obtain ⟨closing, thread, transport, state⟩ :=
    steps.closing (coherent.closers _ (List.mem_of_getElem? there))
  refine ⟨fun early => thread.trans (coherent.early early), fun none => ?_, fun first => ?_,
    fun t there => ?_, fun d effect underway t there => ?_, fun c member => ?_⟩
  · obtain ⟨deeds, idle, done⟩ := coherent.absent (thread.symm.trans none)
    refine ⟨deeds, idle, done.imp_right fun ⟨finished, disconnected⟩ => ⟨finished, ?_⟩⟩
    exact state.elim (·.trans disconnected) id
  · exact transport ▸ coherent.untaken first
  · exact steps.policy ▸ coherent.lived t (thread.symm.trans there)
  · exact coherent.underway d effect underway t (thread.symm.trans there)
  · rcases List.mem_or_eq_of_mem_set member with other | rfl
    · exact coherent.closers c other
    · exact closing

theorem Coherent.step (coherent : s.Coherent) (h : Advances s s') : s'.Coherent := by
  cases h with
  | pass | relink => exact ⟨coherent.early, coherent.absent, coherent.untaken, coherent.lived,
      coherent.underway, coherent.closers⟩
  | connect steps => exact coherent.connect steps
  | close there steps => exact coherent.close there steps
  | disconnect =>
    refine ⟨coherent.early, coherent.absent, coherent.untaken, coherent.lived,
      coherent.underway, ?_⟩
    simp only [List.forall_mem_append, List.forall_mem_singleton]
    exact ⟨coherent.closers, rfl⟩
  | launch thread fresh idle =>
    refine ⟨fun early => ?_, fun none => ?_, coherent.untaken, fun t there => ?_,
      fun d effect underway => ?_, coherent.closers⟩
    · exact absurd early (ne_true_of_eq_false (coherent.not_early thread))
    · cases none
    · cases there
      change Loop.Lived _ _ s.deeds
      rw [fresh]
      exact .begun
    · cases idle.symm.trans underway
  | react thread idle asked reacted =>
    refine ⟨coherent.early, fun none => ?_, coherent.untaken, coherent.lived,
      fun d effect underway t there => ?_, coherent.closers⟩
    · cases none.symm.trans thread
    · cases underway
      cases thread.symm.trans there
      exact ⟨rfl, reacted⟩
  | @carryOut t d effect underway thread =>
    obtain ⟨same, reacted⟩ := coherent.underway d effect underway t thread
    have lived := coherent.lived t thread
    refine ⟨fun early => ?_, fun none => ?_, coherent.untaken, fun t' there => ?_,
      fun d effect underway => ?_, coherent.closers⟩
    · exact absurd early (ne_true_of_eq_false (coherent.not_early thread))
    · cases none
    · cases there
      have after := lived.reacted reacted
      have started := after.same.2
      rw [← same] at after started
      exact started ▸ after
    · cases underway

/-- What every move from a coherent state keeps, every run from one keeps. -/
theorem Coherent.keeps {P : Ensemble → Prop}
    (keeps : ∀ {s s' : Ensemble}, s.Coherent → P s → Advances s s' → P s') (coherent : s.Coherent)
    (init : P s) (run : s.run? moves = some s') : s'.Coherent ∧ P s' :=
  foldlM_keeps_both (fun coherent h => coherent.step (advances_of_step? h))
    (fun coherent holds h => keeps coherent holds (advances_of_step? h)) ⟨coherent, init⟩ run

theorem coherent_of_run {m : Manager} {now : Instant} (unused : m.Unused)
    (run : (start m now).run? moves = some s) : s.Coherent :=
  foldlM_keeps (fun coherent h => coherent.step (advances_of_step? h)) (.start unused now) run

/-- A thread that is gone has nothing left to do. -/
theorem Coherent.idle_of_gone (coherent : s.Coherent)
    (gone : ∀ t, s.manager.thread = some t → t.loop.stage = .gone) : s.underway = none := by
  cases underway : s.underway with
  | none => rfl
  | some decided =>
    cases thread : s.manager.thread with
    | none => exact underway.symm.trans (coherent.absent thread).2.1
    | some t =>
      obtain ⟨-, reacted⟩ := coherent.underway _ _ underway t thread
      rw [Loop.react?_gone (gone t thread)] at reacted
      cases reacted

/-- Once a session is at rest, it stays so. -/
theorem AtRest.step (rest : s.AtRest) (coherent : s.Coherent) (h : Advances s s') : s'.AtRest := by
  cases h with
  | pass | disconnect | relink => exact ⟨rest.opener, rest.thread, rest.idle, rest.state⟩
  | connect steps => exact absurd rest.opener (ne_true_of_eq_false steps.not_over)
  | close there steps =>
    obtain ⟨-, thread, -, state⟩ :=
      steps.closing (coherent.closers _ (List.mem_of_getElem? there))
    refine ⟨rest.opener, fun t there => rest.thread t (thread.symm.trans there), rest.idle, ?_⟩
    exact state.elim (·.trans rest.state) id
  | @launch t thread fresh idle =>
    have gone := rest.thread t thread
    rw [(coherent.lived t thread).eq_of_nil fresh] at gone
    cases gone
  | @react t _ _ _ thread idle asked reacted =>
    rw [Loop.react?_gone (rest.thread t thread)] at reacted
    cases reacted
  | carryOut underway => cases rest.idle.symm.trans underway

theorem AtRest.run (rest : s.AtRest) (coherent : s.Coherent) (run : s.run? moves = some s') :
    s'.AtRest :=
  (coherent.keeps (fun coherent rest h => rest.step coherent h) rest run).2

/-- A manager of which nothing has been asked. -/
def newManager (policy : RetryPolicy) : Manager where
  options :=
    { clientId := "me", host := "localhost", port := 1883, keepAlive := Span.ofSecs 60,
      cleanStart := true, login := none }
  policy := policy
  link := .fresh
  signal := .fresh
  transport := some .fresh
  stops := 0
  thread := none
  joinable := false

theorem newManager_unused (policy : RetryPolicy) : (newManager policy).Unused :=
  ⟨rfl, nofun, rfl, rfl⟩

end Ensemble

end Courier
