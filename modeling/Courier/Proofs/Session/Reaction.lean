import Mathlib.Data.List.Pairwise
import Courier.Session.Loop

/-!
# What a network thread does, and why

Everything that a network thread can do, each with what it takes. From this list follows what it
may have done since it began: it leaves its loop once and does not poll in it again, and a session
that the broker has established ends with the first failure.
-/

namespace Courier

/-- Whether the thread is still in its loop. -/
def Stage.isInside : Stage → Bool
  | .polling | .pausing _ => true
  | .draining | .leaving | .gone => false

def Stage.isPause : Stage → Bool
  | .pausing _ => true
  | _ => false

theorem Stage.isInside_of_isPause {stage : Stage} (pause : stage.isPause) : stage.isInside := by
  cases stage with
  | pausing wake => rfl
  | _ => cases pause

theorem Stage.isInside_of_polling {stage : Stage} (polling : stage = .polling) :
    stage.isInside := by
  rw [polling]
  rfl

namespace Stimulus

def isPoll : Stimulus → Bool
  | .polled _ => true
  | _ => false

/-- Whether the broker has established the session. -/
def isSuccess : Stimulus → Bool
  | .polled (.ok (.incoming (.connAck _ code))) => code = .success
  | _ => false

/-- Whether the broker has sent DISCONNECT. -/
def isFarewell : Stimulus → Bool
  | .polled (.ok (.incoming (.disconnect _))) => true
  | _ => false

def isError : Stimulus → Bool
  | .polled (.error _) => true
  | _ => false

theorem isSuccess_of_isFarewell {s : Stimulus} (farewell : s.isFarewell) : s.isSuccess = false := by
  unfold isFarewell at farewell
  split at farewell
  · rfl
  · cases farewell

theorem isError_of_isFarewell {s : Stimulus} (farewell : s.isFarewell) : s.isError = false := by
  unfold isFarewell at farewell
  split at farewell
  · rfl
  · cases farewell

theorem isSuccess_of_isError {s : Stimulus} (error : s.isError) : s.isSuccess = false := by
  unfold isError at error
  split at error
  · rfl
  · cases error

theorem isPoll_of_isSuccess {s : Stimulus} (success : s.isSuccess) : s.isPoll := by
  cases s with
  | polled p => rfl
  | _ => cases success

theorem isPoll_of_isFarewell {s : Stimulus} (farewell : s.isFarewell) : s.isPoll := by
  cases s with
  | polled p => rfl
  | _ => cases farewell

theorem isPoll_of_isError {s : Stimulus} (error : s.isError) : s.isPoll := by
  cases s with
  | polled p => rfl
  | _ => cases error

end Stimulus

/-- Whether an effect leaves the session and the outcome of connecting as they are. -/
def Effect.isQuiet : Effect → Bool
  | .none | .dispatch _ | .signal (.answered false) => true
  | _ => false

/-- What an effect does to the signal. -/
def Effect.on (now : Instant) (s : Signal) : Effect → Signal
  | .signal e => ((s.step? now e).map (·.1)).getD s
  | _ => s

@[simp]
theorem Effect.on_fail (now : Instant) (s : Signal) (fault : Fault) :
    (Effect.signal (.fail fault)).on now s = s.fail fault := rfl

@[simp]
theorem Effect.on_success (now : Instant) (s : Signal) :
    (Effect.signal (.answered true)).on now s = s.answered true := rfl

theorem Effect.on_quiet {effect : Effect} (quiet : effect.isQuiet) (now : Instant) (s : Signal) :
    effect.on now s = s := by
  cases effect with
  | signal e =>
    cases e with
    | answered success =>
      cases success with
      | false => rfl
      | true => cases quiet
    | _ => cases quiet
  | _ => rfl

namespace Loop

/-- What a thread reports that left its loop for no other reason. -/
def stopFault : Fault :=
  .connectFailed "network thread stopped before the session was established"

/-- Everything that a thread can do. -/
inductive Reacts (l : Loop) (now : Instant) : Stimulus → Loop → Effect → Prop where
  | stop (inside : l.stage.isInside) (unconnected : l.connected = false) :
      Reacts l now .shutdown l.leave .none
  | drain (polling : l.stage = .polling) (connected : l.connected) :
      Reacts l now .shutdown { l with stage := .draining } .none
  | expire (inside : l.stage.isInside) (unconnected : l.connected = false)
      (due : isDue (l.policy.deadline? l.started) now) :
      Reacts l now .deadline l.leave (.signal (.fail l.policy.timeoutFault))
  | establish {s : Stimulus} (polling : l.stage = .polling) (success : s.isSuccess) :
      Reacts l now s { l with connected := true } (.signal (.answered true))
  | observe {e : Event} {effect : Effect} (polling : l.stage = .polling)
      (other : (Stimulus.polled (.ok e)).isSuccess = false ∧
        (Stimulus.polled (.ok e)).isFarewell = false)
      (quiet : effect.isQuiet) : Reacts l now (.polled (.ok e)) l effect
  | part {s : Stimulus} (polling : l.stage = .polling) (farewell : s.isFarewell) :
      Reacts l now s l.leave (.signal .lost)
  | lose {s : Stimulus} (polling : l.stage = .polling) (connected : l.connected)
      (error : s.isError) : Reacts l now s l.leave (.signal .lost)
  | refuse {e : TransportError} (polling : l.stage = .polling) (unconnected : l.connected = false)
      (fatal : e.isFatal) :
      Reacts l now (.polled (.error e)) l.leave (.signal (.fail (.connectFailed e.text)))
  | spend {e : TransportError} (polling : l.stage = .polling) (unconnected : l.connected = false)
      (passing : e.isFatal = false) (due : isDue (l.policy.deadline? l.started) now) :
      Reacts l now (.polled (.error e)) { l with attempts := l.attempts + 1, stage := .leaving }
        (.signal (.fail l.policy.timeoutFault))
  | pause {e : TransportError} (polling : l.stage = .polling) (unconnected : l.connected = false)
      (passing : e.isFatal = false) (early : isDue (l.policy.deadline? l.started) now = false) :
      Reacts l now (.polled (.error e))
        { l with attempts := l.attempts + 1, stage := .pausing (now.after? l.policy.interval) }
        .none
  | retry (pausing : l.stage.isPause) (unconnected : l.connected = false) :
      Reacts l now .rested { l with stage := .polling } .none
  | drained (draining : l.stage = .draining) : Reacts l now .drained l.leave .none
  | finish (leaving : l.stage = .leaving) (connected : l.connected) :
      Reacts l now .proceed { l with stage := .gone } .none
  | settle (leaving : l.stage = .leaving) (unconnected : l.connected = false) :
      Reacts l now .proceed { l with stage := .gone } (.signal (.fail stopFault))

variable {l l' : Loop} {now : Instant} {s : Stimulus} {effect : Effect}

theorem isDue_iff {deadline : Option Instant} :
    isDue deadline now ↔ ∃ d, deadline = some d ∧ d ≤ now := by
  cases deadline <;> simp [isDue]

theorem isDue_deadline? (h : isDue l.deadline? now) :
    l.connected = false ∧ isDue (l.policy.deadline? l.started) now := by
  unfold deadline? at h
  cases connected : l.connected with
  | false => simpa [connected] using h
  | true => simp [connected, isDue] at h

theorem reacts_event (polling : l.stage = .polling) (e : Event) :
    Reacts l now (.polled (.ok e)) (l.onEvent e).1 (l.onEvent e).2 := by
  cases e with
  | outgoing => exact .observe polling ⟨rfl, rfl⟩ rfl
  | incoming p =>
    cases p with
    | connAck present code =>
      simp only [onEvent, Event.route]
      by_cases success : code = .success
      · subst success
        simp only [decide_true, Bool.or_true]
        exact .establish polling rfl
      · simp only [success, decide_false, Bool.or_false]
        exact .observe polling ⟨by simp [Stimulus.isSuccess, success], rfl⟩ rfl
    | disconnect reason => exact .part polling rfl
    | _ => exact .observe polling ⟨rfl, rfl⟩ rfl

theorem reacts_error (polling : l.stage = .polling) (e : TransportError) :
    Reacts l now (.polled (.error e)) (l.onError e now).1 (l.onError e now).2 := by
  unfold onError
  split
  · rename_i connected
    exact .lose polling connected rfl
  · rename_i unconnected
    have unconnected : l.connected = false := eq_false_of_ne_true unconnected
    split
    · rename_i fatal
      exact .refuse polling unconnected fatal
    · rename_i passing
      have passing : e.isFatal = false := eq_false_of_ne_true passing
      dsimp only
      split
      · rename_i spent
        exact .spend polling unconnected passing spent
      · rename_i early
        exact .pause polling unconnected passing (eq_false_of_ne_true early)

theorem reacts_settle (leaving : l.stage = .leaving) :
    Reacts l now .proceed l.settle.1 l.settle.2 := by
  simp only [settle]
  split
  · rename_i connected
    exact .finish leaving connected
  · rename_i unconnected
    exact .settle leaving (eq_false_of_ne_true unconnected)

theorem reacts_deadline (inside : l.stage.isInside)
    (h : (if isDue l.deadline? now then some l.timeOut else none) = some (l', effect)) :
    Reacts l now .deadline l' effect := by
  split at h
  · rename_i due
    obtain ⟨unconnected, due⟩ := isDue_deadline? due
    cases h
    exact .expire inside unconnected due
  · cases h

/-- A reaction is one of these. That no thread makes a pause in a session has to be known. -/
theorem reacts_of_react? (calm : l.stage.isPause → l.connected = false)
    (h : l.react? now s = some (l', effect)) : Reacts l now s l' effect := by
  rw [react?.eq_def] at h
  split at h
  · rename_i polling
    obtain ⟨rfl, rfl⟩ := Prod.mk.inj (Option.some.inj h)
    split
    · rename_i connected
      exact .drain polling connected
    · rename_i unconnected
      exact .stop (Stage.isInside_of_polling polling) (eq_false_of_ne_true unconnected)
  · rename_i polling
    exact reacts_deadline (Stage.isInside_of_polling polling) h
  · rename_i e polling
    obtain ⟨rfl, rfl⟩ := Prod.mk.inj (Option.some.inj h)
    exact reacts_event polling e
  · rename_i e polling
    obtain ⟨rfl, rfl⟩ := Prod.mk.inj (Option.some.inj h)
    exact reacts_error polling e
  · rename_i pausing
    cases h
    exact .stop (by rw [pausing]; rfl) (calm (by rw [pausing]; rfl))
  · rename_i pausing
    exact reacts_deadline (by rw [pausing]; rfl) h
  · rename_i pausing
    split at h
    · cases h
      have pause : l.stage.isPause := by rw [pausing]; rfl
      exact .retry pause (calm pause)
    · cases h
  · rename_i draining
    cases h
    exact .drained draining
  · rename_i leaving
    obtain ⟨rfl, rfl⟩ := Prod.mk.inj (Option.some.inj h)
    exact reacts_settle leaving
  · cases h

theorem Reacts.same (r : Reacts l now s l' effect) :
    l'.policy = l.policy ∧ l'.started = l.started := by
  cases r <;> exact ⟨rfl, rfl⟩

/-- Once out of its loop, a thread does not come back. -/
theorem Reacts.inside (r : Reacts l now s l' effect) (inside : l'.stage.isInside) :
    l.stage.isInside := by
  cases r with
  | establish polling | observe polling | pause polling => exact Stage.isInside_of_polling polling
  | retry pausing => exact Stage.isInside_of_isPause pausing
  | _ => cases inside

theorem Reacts.polling (r : Reacts l now s l' effect) (poll : s.isPoll) : l.stage = .polling := by
  cases r with
  | establish polling | observe polling | part polling | lose polling | refuse polling
  | spend polling | pause polling => exact polling
  | _ => cases poll

theorem Reacts.calm (r : Reacts l now s l' effect) (pause : l'.stage.isPause) :
    l'.connected = false := by
  cases r with
  | establish polling | observe polling => simp [polling, Stage.isPause] at pause
  | pause _ unconnected _ _ => exact unconnected
  | _ => cases pause

theorem Reacts.connected_of_outside (r : Reacts l now s l' effect)
    (outside : l'.stage.isInside = false) : l'.connected = l.connected := by
  cases r with
  | establish polling =>
    exact absurd (Stage.isInside_of_polling polling) (ne_true_of_eq_false outside)
  | _ => rfl

theorem Reacts.connected_iff (r : Reacts l now s l' effect) :
    l'.connected ↔ l.connected ∨ s.isSuccess := by
  cases r with
  | establish _ success => simp [success]
  | observe _ other => simp [other.1]
  | part _ farewell => simp [Stimulus.isSuccess_of_isFarewell farewell, leave]
  | lose _ connected => simp [connected, leave]
  | _ => simp [leave, Stimulus.isSuccess]

/-- In a session there are no deadlines and no pauses, and the first failure is the end. -/
theorem Reacts.in_session (r : Reacts l now s l' effect) (connected : l.connected) :
    s ≠ .deadline ∧ s ≠ .rested ∧ l'.stage.isPause = false ∧
      (s.isError ∨ s.isFarewell → l.stage = .polling ∧ l'.stage = .leaving) := by
  have unpolled (other : s.isPoll = false) (lost : s.isError ∨ s.isFarewell) : False := by
    rcases lost with error | farewell
    · exact absurd (Stimulus.isPoll_of_isError error) (ne_true_of_eq_false other)
    · exact absurd (Stimulus.isPoll_of_isFarewell farewell) (ne_true_of_eq_false other)
  have polled (poll : s.isPoll) : s ≠ .deadline ∧ s ≠ .rested :=
    ⟨(by rintro rfl; cases poll), (by rintro rfl; cases poll)⟩
  cases r with
  | stop _ unconnected | expire _ unconnected | refuse _ unconnected | spend _ unconnected
  | pause _ unconnected | retry _ unconnected | settle _ unconnected =>
    exact absurd connected (ne_true_of_eq_false unconnected)
  | drain | drained | finish => exact ⟨nofun, nofun, rfl, fun lost => (unpolled rfl lost).elim⟩
  | establish polling success =>
    obtain ⟨deadline, rested⟩ := polled (Stimulus.isPoll_of_isSuccess success)
    refine ⟨deadline, rested, by simp [polling, Stage.isPause], fun lost => ?_⟩
    rcases lost with error | farewell
    · exact absurd success (ne_true_of_eq_false (Stimulus.isSuccess_of_isError error))
    · exact absurd success (ne_true_of_eq_false (Stimulus.isSuccess_of_isFarewell farewell))
  | observe polling other =>
    refine ⟨nofun, nofun, by simp [polling, Stage.isPause], fun lost => ?_⟩
    rcases lost with error | farewell
    · cases error
    · exact absurd farewell (ne_true_of_eq_false other.2)
  | part polling farewell =>
    obtain ⟨deadline, rested⟩ := polled (Stimulus.isPoll_of_isFarewell farewell)
    exact ⟨deadline, rested, rfl, fun _ => ⟨polling, rfl⟩⟩
  | lose polling _ error =>
    obtain ⟨deadline, rested⟩ := polled (Stimulus.isPoll_of_isError error)
    exact ⟨deadline, rested, rfl, fun _ => ⟨polling, rfl⟩⟩

theorem Reacts.drains (r : Reacts l now .shutdown l' effect) (connected : l.connected) :
    l.stage = .polling ∧ l'.stage = .draining := by
  cases r with
  | stop _ unconnected => exact absurd connected (ne_true_of_eq_false unconnected)
  | drain polling => exact ⟨polling, rfl⟩
  | establish _ success => cases success
  | part _ farewell => cases farewell
  | lose _ _ error => cases error

theorem react?_gone (gone : l.stage = .gone) : l.react? now s = none := by
  unfold react?
  rw [gone]

/-! ## What a thread may have done -/

/-- A reaction to something at some time, and the thread before and after it. -/
structure Deed where
  now : Instant
  before : Loop
  stimulus : Stimulus
  after : Loop

/-- Whether the thread left its loop. -/
def Deed.leaves (d : Deed) : Bool := d.before.stage.isInside && !d.after.stage.isInside

/-- Whether the thread was asked to stop while it had a session. -/
def Deed.isStop (d : Deed) : Bool :=
  match d.stimulus with
  | .shutdown => d.before.connected
  | _ => false

theorem Deed.isStop_of_isPoll {d : Deed} (poll : d.stimulus.isPoll) : d.isStop = false := by
  unfold isStop
  split
  · rename_i shutdown
    rw [shutdown] at poll
    cases poll
  · rfl

theorem Deed.connected_of_isStop {d : Deed} (stop : d.isStop) :
    d.stimulus = .shutdown ∧ d.before.connected := by
  unfold isStop at stop
  split at stop
  · rename_i shutdown
    exact ⟨shutdown, stop⟩
  · cases stop

theorem Deed.leaves_of_isStop {d : Deed} (r : Reacts d.before d.now d.stimulus d.after effect)
    (stop : d.isStop) : d.leaves := by
  obtain ⟨shutdown, connected⟩ := connected_of_isStop stop
  obtain ⟨polling, draining⟩ := (shutdown ▸ r).drains connected
  simp [leaves, polling, draining, Stage.isInside]

/-- How the thread left its loop, if it did. -/
def exit? (deeds : List Deed) : Option Deed := deeds.find? (·.leaves)

/-- All that a thread did since it began, the latest last. -/
inductive Lived (first : Loop) : Loop → List Deed → Prop where
  | begun : Lived first first []
  | reacted {l l' : Loop} {deeds : List Deed} {now : Instant} {s : Stimulus} {effect : Effect}
      (before : Lived first l deeds) (h : l.react? now s = some (l', effect)) :
      Lived first l' (deeds ++ [⟨now, l, s, l'⟩])

theorem exit?_append (deeds : List Deed) (d : Deed) :
    exit? (deeds ++ [d]) = (exit? deeds).or (if d.leaves then some d else none) := by
  rw [exit?, List.find?_append, List.find?_singleton]
  rfl

namespace Lived

variable {first : Loop} {deeds : List Deed} {policy : RetryPolicy} {started : Instant}

theorem eq_of_nil (h : Lived first l deeds) (nothing : deeds = []) : l = first := by
  cases h with
  | begun => rfl
  | reacted => simp at nothing

theorem calm (h : Lived (fresh policy started) l deeds) (pause : l.stage.isPause) :
    l.connected = false := by
  induction h with
  | begun => rfl
  | reacted before step ih => exact (reacts_of_react? ih step).calm pause

theorem same (h : Lived (fresh policy started) l deeds) :
    l.policy = policy ∧ l.started = started := by
  induction h with
  | begun => exact ⟨rfl, rfl⟩
  | reacted before step ih =>
    obtain ⟨policy, started⟩ := (reacts_of_react? before.calm step).same
    exact ⟨policy.trans ih.1, started.trans ih.2⟩

theorem connected_iff (h : Lived (fresh policy started) l deeds) :
    l.connected ↔ ∃ d ∈ deeds, d.stimulus.isSuccess := by
  induction h with
  | begun => simp [fresh]
  | reacted before step ih =>
    rw [(reacts_of_react? before.calm step).connected_iff, ih]
    simp [or_and_right, exists_or]

theorem inside_iff (h : Lived (fresh policy started) l deeds) :
    l.stage.isInside ↔ ∀ d ∈ deeds, d.leaves = false := by
  induction h with
  | begun => simp [fresh, Stage.isInside]
  | @reacted l l' deeds now s effect before step ih =>
    have stays := (reacts_of_react? before.calm step).inside
    rw [List.forall_mem_append, ← ih, List.forall_mem_singleton, Deed.leaves]
    constructor
    · intro inside
      exact ⟨stays inside, by simp [inside]⟩
    · rintro ⟨inside, stayed⟩
      simpa [inside] using stayed

/-- Everything done was something that a thread can do. -/
theorem each (h : Lived (fresh policy started) l deeds) :
    ∀ d ∈ deeds, ∃ effect, Reacts d.before d.now d.stimulus d.after effect := by
  induction h with
  | begun => simp
  | reacted before step ih =>
    simp only [List.forall_mem_append, List.forall_mem_singleton]
    exact ⟨ih, _, reacts_of_react? before.calm step⟩

/-- What was done has come about before anything done later. -/
theorem order (h : Lived (fresh policy started) l deeds) :
    deeds.Pairwise fun d later =>
      (d.leaves → later.before.stage.isInside = false) ∧
      (d.stimulus.isSuccess → later.before.connected) := by
  induction h with
  | begun => exact .nil
  | @reacted l l' deeds now s effect before step ih =>
    refine List.pairwise_append.mpr ⟨ih, List.pairwise_singleton .., ?_⟩
    simp only [List.mem_singleton, forall_eq]
    intro d done
    constructor
    · intro left
      refine eq_false_of_ne_true fun inside => ?_
      rw [before.inside_iff.mp inside d done] at left
      cases left
    · exact fun success => before.connected_iff.mpr ⟨d, done, success⟩

theorem connected_of_mem (h : Lived (fresh policy started) l deeds) {d : Deed} (done : d ∈ deeds)
    (connected : d.before.connected) : l.connected := by
  induction h with
  | begun => cases done
  | reacted before step ih =>
    refine (reacts_of_react? before.calm step).connected_iff.mpr (.inl ?_)
    rcases List.mem_append.mp done with earlier | last
    · exact ih earlier
    · rw [List.mem_singleton.mp last] at connected
      exact connected

theorem exit?_of_inside (h : Lived (fresh policy started) l deeds) (inside : l.stage.isInside) :
    exit? deeds = none :=
  List.find?_eq_none.mpr fun d done => by simp [h.inside_iff.mp inside d done]

/-- The thread leaves its loop once. -/
theorem exit?_of_mem (h : Lived (fresh policy started) l deeds) {d : Deed} (done : d ∈ deeds)
    (leaves : d.leaves) : exit? deeds = some d := by
  induction h with
  | begun => cases done
  | reacted before step ih =>
    rcases List.mem_append.mp done with earlier | last
    · rw [exit?_append, ih earlier, Option.some_or]
    · have last := List.mem_singleton.mp last
      subst last
      have inside := (Bool.and_eq_true_iff.mp leaves).1
      rw [exit?_append, before.exit?_of_inside inside, Option.none_or, if_pos leaves]

theorem any_isStop (h : Lived (fresh policy started) l deeds) {d : Deed}
    (exit : exit? deeds = some d) : deeds.any (·.isStop) = d.isStop := by
  rw [Bool.eq_iff_iff, List.any_eq_true]
  constructor
  · rintro ⟨e, done, stop⟩
    obtain ⟨effect, r⟩ := h.each e done
    rw [h.exit?_of_mem done (Deed.leaves_of_isStop r stop)] at exit
    cases exit
    exact stop
  · exact fun stop => ⟨d, List.mem_of_find?_eq_some exit, stop⟩

/-- Only a thread that was asked to stop in a session lets that session close. -/
theorem stop_of_draining (h : Lived (fresh policy started) l deeds)
    (draining : l.stage = .draining) : ∃ d ∈ deeds, exit? deeds = some d ∧ d.isStop := by
  cases h with
  | begun => cases draining
  | reacted before step =>
    cases reacts_of_react? before.calm step with
    | drain polling connected =>
      refine ⟨_, List.mem_append_right _ (List.mem_singleton_self _), ?_, connected⟩
      have inside := Stage.isInside_of_polling polling
      rw [exit?_append, before.exit?_of_inside inside, Option.none_or]
      exact if_pos (Bool.and_eq_true_iff.mpr ⟨inside, rfl⟩)
    | establish polling | observe polling => simp [polling] at draining
    | _ => cases draining

theorem exit?_of_outside (h : Lived (fresh policy started) l deeds)
    (outside : l.stage.isInside = false) : ∃ d ∈ deeds, exit? deeds = some d ∧ d.leaves := by
  have left : ¬∀ d ∈ deeds, d.leaves = false := by simp [← h.inside_iff, outside]
  simp only [not_forall, Bool.not_eq_false] at left
  obtain ⟨d, done, leaves⟩ := left
  exact ⟨d, done, h.exit?_of_mem done leaves, leaves⟩

end Lived

end Loop

end Courier
