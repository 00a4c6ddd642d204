import Courier.Proofs.Session.Deadline

/-!
# The attempts of a network thread and the pauses between them

The same calls and the same thread, with the polls of the thread one by one: each is begun, goes on
for a time and gives something, and the thread reacts to that later. A thread that waits for a poll
or for the end of a pause is woken when its time comes, and what is urgent comes first. So no
attempt is begun too late, and between two attempts there is one whole pause.
-/

namespace Courier

theorem Loop.not_le_of_isDue {deadline : Option Instant} {now d : Instant}
    (early : Loop.isDue deadline now = false) (limit : deadline = some d) : ¬ d ≤ now :=
  fun past => by cases early.symm.trans (Loop.isDue_iff.mpr ⟨d, limit, past⟩)

/-- What has become of the poll of a thread. -/
inductive Poll where
  | idle
  | running
  /-- The thread has not reacted to it yet. -/
  | given (polled : Polled)

def Poll.isIdle : Poll → Bool
  | .idle => true
  | _ => false

def Poll.isRunning : Poll → Bool
  | .running => true
  | _ => false

def Poll.isGiven : Poll → Bool
  | .given _ => true
  | _ => false

/-- An attempt to establish a session. -/
structure Attempt where
  /-- When its polls were begun, the latest first. -/
  polls : List Instant
  /-- The error that ended it. -/
  failure : Option (Instant × TransportError)
  /-- What ended the pause after it. -/
  pause : Option (Instant × Stimulus)

structure Campaign where
  ensemble : Ensemble
  poll : Poll
  /-- The latest first. -/
  attempts : List Attempt

/-- The thread, as it goes on from what it has decided to do. -/
def Ensemble.loop? (s : Ensemble) : Option Loop :=
  match s.underway with
  | some (d, _) => some d.after
  | none => s.manager.thread.map (·.loop)

/-- Whether the thread has been asked to stop. -/
def Ensemble.isStopping (s : Ensemble) : Bool :=
  s.manager.thread.any fun t => t.heard < s.manager.stops

namespace Campaign

def start (m : Manager) (now : Instant) : Campaign := ⟨.start m now, .idle, []⟩

/-- When a thread wakes up that waits. -/
def alarms (c : Campaign) : List Instant :=
  match c.ensemble.loop? with
  | none => []
  | some l =>
    match l.stage with
    | .pausing wake => wake.toList ++ l.deadline?.toList
    | .polling => if c.poll.isRunning then l.deadline?.toList else []
    | _ => []

/-- Whether there is nothing that comes before a poll or the end of a pause. -/
def isCalm (c : Campaign) (l : Loop) : Bool :=
  (l.urgent? c.ensemble.now c.ensemble.isStopping).isNone

/-- A poll begins: it belongs to the attempt that goes on, or to a new one. -/
def attempted (now : Instant) : List Attempt → List Attempt
  | [] => [⟨[now], none, none⟩]
  | a :: earlier =>
    if a.failure.isNone then { a with polls := now :: a.polls } :: earlier
    else ⟨[now], none, none⟩ :: a :: earlier

/-- What a deed means for the latest attempt. -/
def noted (d : Loop.Deed) : List Attempt → List Attempt
  | [] => []
  | a :: earlier =>
    if d.before.connected then a :: earlier
    else
      match d.before.stage, d.stimulus with
      | .polling, .polled (.error e) => { a with failure := some (d.now, e) } :: earlier
      | .pausing _, s => { a with pause := some (d.now, s) } :: earlier
      | _, _ => a :: earlier

inductive Move where
  /-- The clock goes on. -/
  | pass (later : Instant)
  /-- The thread reads the clock, before it does anything else. -/
  | launch
  /-- It begins to poll. -/
  | begin
  /-- The poll gives something. -/
  | finish (polled : Polled)
  /-- The thread decides what to do about it. -/
  | heed
  /-- It reacts to something else. -/
  | react (s : Stimulus)
  /-- Anything else. -/
  | beside (move : Ensemble.Move)

/-- Whether a thread that waits may react to something now. -/
def permits (c : Campaign) : Stimulus → Bool
  | .shutdown => !c.poll.isGiven
  | .deadline => !c.poll.isGiven && !c.ensemble.isStopping
  | .polled _ => false
  | .rested => c.ensemble.loop?.all c.isCalm
  | .drained | .proceed => true

def along (c : Campaign) (move : Ensemble.Move) : Option Campaign :=
  (c.ensemble.step? move).map fun ensemble => { c with ensemble }

def reacts? (c : Campaign) (s : Stimulus) : Option Campaign :=
  (c.ensemble.step? (.react s)).map fun ensemble =>
    { ensemble
      poll := .idle
      attempts := (ensemble.underway.map (·.1)).elim c.attempts (noted · c.attempts) }

def step? (c : Campaign) : Move → Option Campaign
  | .pass later => if c.alarms.all (later ≤ ·) then c.along (.pass later) else none
  | .launch => if c.attempts.isEmpty ∧ c.poll.isIdle then c.along .launch else none
  | .begin =>
    match c.ensemble.underway, c.ensemble.loop? with
    | none, some l =>
      if l.stage = .polling ∧ c.poll.isIdle ∧ c.isCalm l then
        some { c with
          poll := .running
          attempts := if l.connected then c.attempts else attempted c.ensemble.now c.attempts }
      else none
    | _, _ => none
  | .finish polled =>
    if c.poll.isRunning ∧ c.ensemble.loop?.all c.isCalm then some { c with poll := .given polled }
    else none
  | .heed =>
    match c.poll with
    | .given polled => c.reacts? (.polled polled)
    | _ => none
  | .react s => if c.permits s then c.reacts? s else none
  | .beside move =>
    match move with
    | .pass _ | .launch | .react _ => none
    | move => c.along move

def run? (moves : List Move) (c : Campaign) : Option Campaign := moves.foldlM step? c

end Campaign

theorem Poll.isRunning_of_isIdle {poll : Poll} (idle : poll.isIdle) : poll.isRunning = false := by
  cases poll with
  | idle => rfl
  | _ => cases idle

theorem Poll.isGiven_of_isIdle {poll : Poll} (idle : poll.isIdle) : poll.isGiven = false := by
  cases poll with
  | idle => rfl
  | _ => cases idle

/-- Without a session, a thread that waits rests until its time or leaves. -/
theorem Loop.Reacts.unpolled {l l' : Loop} {now : Instant} {s : Stimulus} {effect : Effect}
    (r : Loop.Reacts l now s l' effect) (inside : l.stage.isInside)
    (unconnected : l.connected = false) (unpolled : s.isPoll = false) :
    l'.connected = false ∧
      (s = .rested ∧ l.stage.isPause ∧ l'.stage = .polling ∨
        l'.stage.isInside = false ∧
          (s = .shutdown ∨ s = .deadline ∧ Loop.isDue (l.policy.deadline? l.started) now)) := by
  cases r with
  | stop => exact ⟨unconnected, .inr ⟨rfl, .inl rfl⟩⟩
  | expire _ _ due => exact ⟨unconnected, .inr ⟨rfl, .inr ⟨rfl, due⟩⟩⟩
  | retry pausing => exact ⟨unconnected, .inl ⟨rfl, pausing, rfl⟩⟩
  | drain _ connected | finish _ connected | lose _ connected =>
    exact absurd connected (ne_true_of_eq_false unconnected)
  | establish _ success => cases unpolled.symm.trans (Stimulus.isPoll_of_isSuccess success)
  | part _ farewell => cases unpolled.symm.trans (Stimulus.isPoll_of_isFarewell farewell)
  | observe | refuse | spend | pause => cases unpolled
  | drained stage | settle stage =>
    rw [stage] at inside
    cases inside

theorem Stimulus.isError_of_unpolled {s : Stimulus} (unpolled : s.isPoll = false) :
    s.isError = false :=
  eq_false_of_ne_true fun error => by cases unpolled.symm.trans (isPoll_of_isError error)

/-! ## What else may happen -/

theorem Manager.Steps.stops {spawned : Except String Unit} {now : Instant} {id : Nat}
    {m m' : Manager} {c c' : Manager.Call} (h : m.Steps spawned now id c c' m') :
    m.stops ≤ m'.stops := by
  cases h <;> first | exact Nat.le_refl _ | exact Nat.le_succ _

theorem Manager.settleWait_manager (m : Manager) (asleep : Manager.Call)
    (woken : Signal × List Signal.Answer) :
    (m.settleWait asleep woken).2 = { m with signal := woken.1 } := by
  obtain ⟨signal, answers⟩ := woken
  rcases answers with _ | ⟨⟨id, _ | _⟩, answers⟩ <;> rfl

namespace Ensemble

variable {s s' : Ensemble}

theorem loop?_of_idle {t : NetworkThread} (thread : s.manager.thread = some t)
    (idle : s.underway = none) : s.loop? = some t.loop := by
  rw [loop?, idle, thread]
  rfl

theorem exists_loop {t : NetworkThread} (thread : s.manager.thread = some t) :
    ∃ l, s.loop? = some l := by
  cases underway : s.underway with
  | none => exact ⟨t.loop, loop?_of_idle thread underway⟩
  | some decided => exact ⟨decided.1.after, by rw [loop?, underway]⟩

/-- Whatever the thread has decided, it goes by the same policy from the same start. -/
theorem Coherent.same_loop (coherent : s.Coherent) {t : NetworkThread} {l : Loop}
    (thread : s.manager.thread = some t) (here : s.loop? = some l) :
    l.policy = s.manager.policy ∧ l.started = t.loop.started := by
  have lived := coherent.lived t thread
  cases underway : s.underway with
  | none =>
    cases (loop?_of_idle thread underway).symm.trans here
    exact lived.same
  | some decided =>
    obtain ⟨d, effect⟩ := decided
    obtain ⟨-, reacted⟩ := coherent.underway d effect underway t thread
    obtain ⟨policy, started⟩ := (Loop.reacts_of_react? lived.calm reacted).same
    rw [loop?, underway] at here
    cases here
    exact ⟨policy.trans lived.same.1, started⟩

/-- What a campaign sees of a move that is neither the thread's nor the clock's. -/
structure Beside (s s' : Ensemble) : Prop where
  now : s'.now = s.now
  policy : s'.manager.policy = s.manager.policy
  stops : s.manager.stops ≤ s'.manager.stops
  thread : ∀ t', s'.manager.thread = some t' →
    (∃ t, s.manager.thread = some t ∧ t'.heard = t.heard ∧ t'.loop.started = t.loop.started ∧
      s'.loop? = s.loop?) ∨
    s.manager.thread = none ∧ s'.loop? = some (.fresh s.manager.policy t'.loop.started)
  absent : s'.manager.thread = none → s.manager.thread = none

theorem beside_of_same (now : s'.now = s.now) (policy : s'.manager.policy = s.manager.policy)
    (stops : s.manager.stops ≤ s'.manager.stops) (thread : s'.manager.thread = s.manager.thread)
    (underway : s'.underway = s.underway) : s.Beside s' where
  now := now
  policy := policy
  stops := stops
  thread t there :=
    have loop : s'.loop? = s.loop? := by rw [loop?, underway, thread, loop?]
    .inl ⟨t, thread.symm.trans there, rfl, rfl, loop⟩
  absent := thread.symm.trans

theorem Coherent.beside_connect (coherent : s.Coherent) {spawned : Except String Unit}
    {opener : Manager.Call} {manager : Manager}
    (steps : s.manager.Steps spawned s.now 0 s.opener opener manager) :
    s.Beside (s.goOn (opener, manager)) := by
  by_cases early : s.opener.isEarly
  · have none := coherent.early early
    obtain ⟨-, idle, -⟩ := coherent.absent none
    refine ⟨rfl, steps.policy, steps.stops, fun t there => ?_, fun _ => none⟩
    rcases steps.started with same | ⟨t', started, fresh, -⟩
    · cases none.symm.trans (same.symm.trans there)
    · cases started.symm.trans there
      refine .inr ⟨none, ?_⟩
      rw [← fresh]
      exact loop?_of_idle there idle
  · exact beside_of_same rfl steps.policy steps.stops (steps.thread (eq_false_of_ne_true early)) rfl

theorem Coherent.beside_carryOut (coherent : s.Coherent) {t : NetworkThread} {d : Loop.Deed}
    {effect : Effect} (underway : s.underway = some (d, effect))
    (thread : s.manager.thread = some t) :
    s.Beside { s with
      manager.thread := some { t with loop := d.after }
      manager.signal := effect.on s.now s.manager.signal
      underway := none
      deeds := s.deeds ++ [d] } := by
  obtain ⟨-, reacted⟩ := coherent.underway d effect underway t thread
  have same := (Loop.reacts_of_react? (coherent.lived t thread).calm reacted).same
  refine ⟨rfl, rfl, Nat.le_refl _, fun t' there => .inl ⟨t, thread, ?_⟩, fun none => by cases none⟩
  cases there
  exact ⟨rfl, same.2, by rw [loop?, loop?, underway]; rfl⟩

end Ensemble

namespace Campaign

open Ensemble (Advances)

/-- Everything that a move can do. -/
inductive Goes (c : Campaign) : Campaign → Prop where
  | pass {later : Instant} (onward : c.ensemble.now ≤ later)
      (alarms : ∀ alarm ∈ c.alarms, later ≤ alarm) :
      Goes c { c with ensemble.now := later }
  | launch {t : NetworkThread} (thread : c.ensemble.manager.thread = some t)
      (fresh : c.ensemble.deeds = []) (idle : c.ensemble.underway = none)
      (untried : c.attempts = []) (resting : c.poll.isIdle) :
      Goes c { c with
        ensemble.manager.thread :=
          some { t with loop := .fresh c.ensemble.manager.policy c.ensemble.now } }
  | begin {t : NetworkThread} (thread : c.ensemble.manager.thread = some t)
      (idle : c.ensemble.underway = none) (polling : t.loop.stage = .polling)
      (resting : c.poll.isIdle) (calm : c.isCalm t.loop) :
      Goes c { c with
        poll := .running
        attempts :=
          if t.loop.connected then c.attempts else attempted c.ensemble.now c.attempts }
  | finish (polled : Polled) (running : c.poll.isRunning) :
      Goes c { c with poll := .given polled }
  | react {t : NetworkThread} {s : Stimulus} {loop : Loop} {effect : Effect}
      (thread : c.ensemble.manager.thread = some t) (idle : c.ensemble.underway = none)
      (asked : s = .shutdown → t.heard < c.ensemble.manager.stops)
      (polled : s.isPoll → c.poll.isGiven)
      (reacted : t.loop.react? c.ensemble.now s = some (loop, effect)) :
      Goes c
        { ensemble :=
            { c.ensemble with underway := some (⟨c.ensemble.now, t.loop, s, loop⟩, effect) }
          poll := .idle
          attempts := noted ⟨c.ensemble.now, t.loop, s, loop⟩ c.attempts }
  | beside {ensemble : Ensemble} (moved : Advances c.ensemble ensemble)
      (beside : c.ensemble.Beside ensemble) : Goes c { c with ensemble }

variable {c c' : Campaign} {move : Move} {moves : List Move}

theorem goes_of_reacts? {s : Stimulus} (polled : s.isPoll → c.poll.isGiven)
    (h : c.reacts? s = some c') : c.Goes c' := by
  obtain ⟨e, stepped, rfl⟩ := Option.map_eq_some_iff.mp h
  obtain ⟨t, thread, decided⟩ := Option.bind_eq_some_iff.mp stepped
  split at decided
  · rename_i idle
    obtain ⟨⟨loop, effect⟩, reacted, rfl⟩ := Option.map_eq_some_iff.mp decided
    refine .react thread (Option.isNone_iff_eq_none.mp idle.1) ?_ polled reacted
    rintro rfl
    simpa [Ensemble.isUnasked] using idle.2
  · cases decided

theorem goes_beside (coherent : c.ensemble.Coherent) {move : Ensemble.Move}
    (h : c.step? (.beside move) = some c') : c.Goes c' := by
  have along {c : Campaign} {move : Ensemble.Move} (h : c.along move = some c') :
      ∃ e, c.ensemble.step? move = some e ∧ { c with ensemble := e } = c' :=
    Option.map_eq_some_iff.mp h
  cases move with
  | pass | launch | react => cases h
  | connect spawned =>
    obtain ⟨e, stepped, rfl⟩ := along h
    refine .beside (Ensemble.advances_of_step? stepped) ?_
    obtain ⟨⟨opener, manager⟩, moved, rfl⟩ := Option.map_eq_some_iff.mp stepped
    exact coherent.beside_connect (Manager.steps_of_step? moved)
  | stir =>
    obtain ⟨e, stepped, rfl⟩ := along h
    refine .beside (Ensemble.advances_of_step? stepped) ?_
    simp only [Ensemble.step?] at stepped
    split at stepped
    · rename_i deadline asleep
      obtain ⟨woken, -, rfl⟩ := Option.map_eq_some_iff.mp stepped
      have same := c.ensemble.manager.settleWait_manager (.asleep deadline) woken
      exact Ensemble.beside_of_same rfl (congrArg (·.policy) same)
        (Nat.le_of_eq (congrArg (·.stops) same).symm) (congrArg (·.thread) same) rfl
    · cases stepped
  | disconnect =>
    obtain ⟨e, stepped, rfl⟩ := along h
    refine .beside (Ensemble.advances_of_step? stepped) ?_
    cases stepped
    exact Ensemble.beside_of_same rfl rfl (Nat.le_refl _) rfl rfl
  | close i =>
    obtain ⟨e, stepped, rfl⟩ := along h
    refine .beside (Ensemble.advances_of_step? stepped) ?_
    obtain ⟨call, there, closed⟩ := Option.bind_eq_some_iff.mp stepped
    obtain ⟨⟨next, manager⟩, moved, rfl⟩ := Option.map_eq_some_iff.mp closed
    have steps := Manager.steps_of_step? moved
    obtain ⟨-, thread, -⟩ := steps.closing (coherent.closers _ (List.mem_of_getElem? there))
    exact Ensemble.beside_of_same rfl steps.policy steps.stops thread rfl
  | carryOut =>
    obtain ⟨e, stepped, rfl⟩ := along h
    refine .beside (Ensemble.advances_of_step? stepped) ?_
    obtain ⟨⟨d, effect⟩, underway, done⟩ := Option.bind_eq_some_iff.mp stepped
    obtain ⟨t, thread, rfl⟩ := Option.map_eq_some_iff.mp done
    exact coherent.beside_carryOut underway thread
  | relink link =>
    obtain ⟨e, stepped, rfl⟩ := along h
    refine .beside (Ensemble.advances_of_step? stepped) ?_
    cases stepped
    exact Ensemble.beside_of_same rfl rfl (Nat.le_refl _) rfl rfl

theorem goes_of_step? (coherent : c.ensemble.Coherent) (h : c.step? move = some c') :
    c.Goes c' := by
  cases move with
  | pass later =>
    simp only [step?] at h
    split at h
    · rename_i alarms
      obtain ⟨e, stepped, rfl⟩ := Option.map_eq_some_iff.mp h
      simp only [Ensemble.step?] at stepped
      split at stepped
      · rename_i onward
        cases stepped
        exact .pass onward (by simpa using alarms)
      · cases stepped
    · cases h
  | launch =>
    simp only [step?] at h
    split at h
    · rename_i untried
      obtain ⟨e, stepped, rfl⟩ := Option.map_eq_some_iff.mp h
      simp only [Ensemble.step?] at stepped
      split at stepped
      · rename_i idle
        obtain ⟨t, thread, rfl⟩ := Option.map_eq_some_iff.mp stepped
        exact .launch thread (List.isEmpty_iff.mp idle.1) (Option.isNone_iff_eq_none.mp idle.2)
          (List.isEmpty_iff.mp untried.1) untried.2
      · cases stepped
    · cases h
  | begin =>
    simp only [step?] at h
    split at h
    · rename_i l idle here
      split at h
      · rename_i ready
        rw [Ensemble.loop?, idle] at here
        obtain ⟨t, thread, rfl⟩ := Option.map_eq_some_iff.mp here
        cases h
        exact .begin thread idle ready.1 ready.2.1 ready.2.2
      · cases h
    · cases h
  | finish polled =>
    simp only [step?] at h
    split at h
    · rename_i running
      cases h
      exact .finish polled running.1
    · cases h
  | heed =>
    simp only [step?] at h
    split at h
    · rename_i polled given
      exact goes_of_reacts? (fun _ => by rw [given]; rfl) h
    · cases h
  | react s =>
    simp only [step?] at h
    split at h
    · rename_i permitted
      refine goes_of_reacts? (fun poll => ?_) h
      cases s with
      | polled => cases permitted
      | _ => cases poll
    · cases h
  | beside move => exact goes_beside coherent h

end Campaign

end Courier
