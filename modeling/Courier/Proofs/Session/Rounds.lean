import Courier.Proofs.Session.Budget
import Courier.Proofs.Session.Tally

/-!
# How often a network thread tries again

There is one whole pause between two attempts and none begins once the time is up, so the time that
a policy allows bounds the number of failures, and with it tells whether their count can overflow.
The bound is met by a thread whose attempts fail as soon as they begin.
-/

namespace Courier

namespace RetryPolicy

/-- There is time for so many pauses, and for an attempt to begin after them. -/
structure HasTimeFor (p : RetryPolicy) (started : Instant) (pauses : Nat) : Prop where
  shown : started.toNanos + pauses * p.interval.toNanos < clockSecs * nanosPerSec
  early : ∀ budget, p.timeout = some budget → pauses * p.interval.toNanos < budget.toNanos

variable {p : RetryPolicy} {started earlier now : Instant} {n m : Nat}

theorem HasTimeFor.fewer (h : p.HasTimeFor started n) (le : m ≤ n) : p.HasTimeFor started m := by
  have less : m * p.interval.toNanos ≤ n * p.interval.toNanos := Nat.mul_le_mul_right _ le
  exact ⟨Nat.lt_of_le_of_lt (Nat.add_le_add_left less _) h.shown,
    fun budget timeout => Nat.lt_of_le_of_lt less (h.early budget timeout)⟩

theorem HasTimeFor.sooner (h : p.HasTimeFor started n) (order : earlier ≤ started) :
    p.HasTimeFor earlier n :=
  ⟨Nat.lt_of_le_of_lt (Nat.add_le_add_right order _) h.shown, h.early⟩

theorem hasTimeFor_of_allows (allows : p.Allows started now)
    (past : started.toNanos + n * p.interval.toNanos ≤ now.toNanos) : p.HasTimeFor started n := by
  refine ⟨Nat.lt_of_le_of_lt past now.bounded, fun budget timeout => ?_⟩
  cases limit : started.after? budget with
  | some deadline =>
    have before : ¬ deadline.toNanos ≤ now.toNanos :=
      allows deadline (Option.bind_eq_some_iff.mpr ⟨budget, timeout, limit⟩)
    have sum := Instant.after?_eq_some_iff.mp limit
    omega
  | none =>
    have beyond : ¬ started.toNanos + budget.toNanos < clockSecs * nanosPerSec := by
      rw [← Instant.after?_isSome_iff, limit]
      exact Bool.false_ne_true
    have inside := now.bounded
    omega

theorem HasTimeFor.allows (h : p.HasTimeFor started n)
    (here : now.toNanos = started.toNanos + n * p.interval.toNanos) : p.Allows started now := by
  intro deadline limit past
  obtain ⟨budget, timeout, shown⟩ := deadline?_eq_some limit
  have sum := Instant.after?_eq_some_iff.mp shown
  have past : deadline.toNanos ≤ now.toNanos := past
  have early := h.early budget timeout
  omega

theorem not_hasTimeFor_iff : ¬ p.HasTimeFor started n ↔
    (∃ budget, p.timeout = some budget ∧ budget.toNanos ≤ n * p.interval.toNanos) ∨
      clockSecs * nanosPerSec ≤ started.toNanos + n * p.interval.toNanos := by
  constructor
  · intro none
    by_contra other
    simp only [not_or, not_exists, not_and, Nat.not_le] at other
    exact none ⟨other.2, other.1⟩
  · rintro (⟨budget, timeout, short⟩ | late) time
    · exact Nat.not_lt.mpr short (time.early budget timeout)
    · exact Nat.not_lt.mpr late time.shown

end RetryPolicy

namespace Ensemble

open Loop (failures)

variable {s s' : Ensemble}

/-- What the thread has decided to do, whether it has done it yet or not, the latest last. -/
def decided (s : Ensemble) : List Loop.Deed := s.deeds ++ (s.underway.map (·.1)).toList

theorem decided_idle (idle : s.underway = none) : s.decided = s.deeds := by
  rw [decided, idle]
  exact List.append_nil _

theorem failures_unbegun (nothing : s.deeds = []) (idle : s.underway = none) :
    failures s.decided = 0 := by
  rw [decided_idle idle, nothing]
  rfl

theorem Coherent.lived_loop (coherent : s.Coherent) {t : NetworkThread} {l : Loop}
    (thread : s.manager.thread = some t) (here : s.loop? = some l) :
    Loop.Lived (.fresh s.manager.policy t.loop.started) l s.decided := by
  have lived := coherent.lived t thread
  cases underway : s.underway with
  | none =>
    cases (loop?_of_idle thread underway).symm.trans here
    rw [decided_idle underway]
    exact lived
  | some next =>
    obtain ⟨⟨now, before, stimulus, after⟩, effect⟩ := next
    obtain ⟨same, reacted⟩ := coherent.underway _ effect underway t thread
    rw [loop?, underway] at here
    cases here
    cases same
    rw [decided, underway]
    exact lived.reacted reacted

theorem le_openedBy {first : Instant} (now : first ≤ s.now) (opened : first ≤ s.opened) :
    first ≤ s.openedBy := by
  unfold openedBy
  split
  · exact now
  · exact opened

/-- What is none of the thread's business is no failure. -/
theorem Coherent.failures_beside (coherent : s.Coherent) (moved : Advances s s')
    (beside : s.Beside s') : failures s'.decided = failures s.decided := by
  cases moved with
  | pass | connect | disconnect | close | launch | relink => rfl
  | carryOut underway => simp [decided, underway]
  | @react t stimulus loop effect thread idle asked reacted =>
    rcases beside.thread t thread with ⟨t', before, -, -, same⟩ | ⟨none, -⟩
    · -- A thread that goes on as it was has not counted one more.
      cases before.symm.trans thread
      rw [loop?_of_idle thread idle] at same
      cases same
      rcases (Loop.reacts_of_react? (coherent.lived t thread).calm reacted).counts with
        ⟨-, more, -⟩ | ⟨calm, -⟩
      · exact absurd more (by simp)
      · simp [decided, idle, Loop.failures_snoc, calm]
    · cases none.symm.trans thread

end Ensemble

/-- A failure with time left is counted, and a pause begins. -/
theorem Loop.react?_failure {l : Loop} {now : Instant} {e : TransportError}
    (polling : l.stage = .polling) (unconnected : l.connected = false) (passing : e.isFatal = false)
    (early : l.policy.Allows l.started now) :
    l.react? now (.polled (.error e)) = some
      ({ l with attempts := l.attempts + 1, stage := .pausing (now.after? l.policy.interval) },
        .none) := by
  have unspent : l.policy.isExhausted l.started now = false :=
    eq_false_of_ne_true fun spent => by
      obtain ⟨deadline, limit, past⟩ := RetryPolicy.isExhausted_iff.mp spent
      exact early deadline limit past
  simp [react?, polling, onError, unconnected, passing, unspent]

namespace Campaign

open Ensemble (Advances)
open Loop (failures)

variable {c c' : Campaign} {moves : List Move}

/-- Where a thread stands in its time that has seen so many failures. -/
structure Spaced (p : RetryPolicy) (started now : Instant) (l : Loop) (poll : Poll) (failed : Nat) :
    Prop where
  /-- There was time for each of them. -/
  inTime : ∀ n < failed, p.HasTimeFor started n
  polling : l.stage = .polling → l.connected = false →
    started.toNanos + failed * p.interval.toNanos ≤ now.toNanos
  begun : poll.isIdle = false → l.connected = false → p.HasTimeFor started failed
  pausing : ∀ wake, l.stage = .pausing (some wake) →
    started.toNanos + failed * p.interval.toNanos ≤ wake.toNanos

section

variable {p : RetryPolicy} {started now later : Instant} {l l' : Loop} {poll poll' : Poll}
  {failed : Nat}

theorem Spaced.fresh (order : started ≤ now) (resting : poll.isIdle) (none : failed = 0) :
    Spaced p started now (.fresh p started) poll failed where
  inTime n few := absurd (none ▸ few) (Nat.not_lt_zero n)
  polling _ _ := by rwa [none, Nat.zero_mul, Nat.add_zero]
  begun busy := by cases busy.symm.trans resting
  pausing wake pausing := by cases pausing

theorem Spaced.mono (spaced : Spaced p started now l poll failed) (onward : now ≤ later) :
    Spaced p started later l poll failed :=
  { spaced with
    polling := fun polling unconnected =>
      Nat.le_trans (spaced.polling polling unconnected) onward }

theorem Spaced.begin (spaced : Spaced p started now l poll failed) (polling : l.stage = .polling)
    (early : l.connected = false → p.Allows started now) :
    Spaced p started now l .running failed :=
  { spaced with
    begun := fun _ unconnected =>
      RetryPolicy.hasTimeFor_of_allows (early unconnected) (spaced.polling polling unconnected) }

/-- One more attempt has failed, and the pause after it ends one interval later. -/
theorem Spaced.fail (spaced : Spaced p started now l poll failed) (polling : l.stage = .polling)
    (unconnected : l.connected = false) (busy : poll.isIdle = false)
    (leaves : l'.stage = .leaving ∨ l'.stage = .pausing (now.after? p.interval)) :
    Spaced p started now l' .idle (failed + 1) := by
  have begun := spaced.begun busy unconnected
  have here := spaced.polling polling unconnected
  refine ⟨fun n few => ?_, fun polling' => ?_, nofun, fun wake pausing => ?_⟩
  · rcases Nat.lt_or_eq_of_le (Nat.le_of_lt_succ few) with earlier | rfl
    · exact spaced.inTime n earlier
    · exact begun
  · rcases leaves with leaving | pausing
    · cases leaving.symm.trans polling'
    · cases pausing.symm.trans polling'
  · rcases leaves with leaving | resting
    · cases leaving.symm.trans pausing
    · have shown := Stage.pausing.inj (resting.symm.trans pausing)
      have sum := Instant.after?_eq_some_iff.mp shown
      rw [Nat.add_mul, Nat.one_mul]
      omega

/-- A thread that saw no failure polls on, goes on after its pause, or leaves. -/
theorem Spaced.goOn {s : Stimulus} {effect : Effect}
    (spaced : Spaced p started now l poll failed) (r : Loop.Reacts l now s l' effect)
    (calm : (⟨now, l, s, l'⟩ : Loop.Deed).isFailure = false)
    (woken : s = .rested → ∀ wake, l.stage = .pausing wake → Loop.isDue wake now) :
    Spaced p started now l' .idle failed := by
  refine ⟨spaced.inTime, fun polling' unconnected' => ?_, nofun, fun wake pausing => ?_⟩
  · cases r with
    | observe polling => exact spaced.polling polling unconnected'
    | retry pause =>
      cases stage : l.stage with
      | pausing wake =>
        obtain ⟨w, rfl, due⟩ := Loop.isDue_iff.mp (woken rfl wake stage)
        exact Nat.le_trans (spaced.pausing w stage) due
      | _ =>
        rw [stage] at pause
        cases pause
    | establish => cases unconnected'
    | _ => cases polling'
  · cases r with
    | observe polling | establish polling => cases polling.symm.trans pausing
    | pause _ unconnected passing =>
      cases calm.symm.trans (Loop.Deed.isFailure_iff.mpr ⟨_, rfl, unconnected, passing⟩)
    | _ => cases pausing

theorem Spaced.react {s : Stimulus} {effect : Effect}
    (spaced : Spaced p started now l poll failed) (r : Loop.Reacts l now s l' effect)
    (policy : l.policy = p) (polled : s.isPoll → poll.isIdle = false)
    (woken : s = .rested → ∀ wake, l.stage = .pausing wake → Loop.isDue wake now) :
    Spaced p started now l' .idle (failed + (⟨now, l, s, l'⟩ : Loop.Deed).isFailure.toNat) := by
  rcases r.counts with ⟨failure, -, polling, unconnected, leaves⟩ | ⟨calm, -⟩
  · obtain ⟨e, rfl, -⟩ := Loop.Deed.isFailure_iff.mp failure
    rw [failure]
    exact spaced.fail polling unconnected (polled rfl) (policy ▸ leaves)
  · rw [calm]
    exact spaced.goOn r calm woken

end

/-! ### Every move -/

/-- What holds at every moment of a run that began at some time, of a client with such a policy. -/
structure Measured (p : RetryPolicy) (first : Instant) (c : Campaign) : Prop where
  policy : c.ensemble.manager.policy = p
  now : first ≤ c.ensemble.now
  opened : first ≤ c.ensemble.opened
  started : ∀ t, c.ensemble.manager.thread = some t → t.loop.started ≤ c.ensemble.now
  spaced : ∀ t l, c.ensemble.manager.thread = some t → c.ensemble.loop? = some l →
    Spaced p t.loop.started c.ensemble.now l c.poll (failures c.ensemble.decided)

variable {p : RetryPolicy} {first : Instant}

theorem Goes.policy (h : c.Goes c') :
    c'.ensemble.manager.policy = c.ensemble.manager.policy := by
  cases h with
  | beside moved beside => exact beside.policy
  | _ => rfl

theorem Measured.clock (measured : c.Measured p first) (coherent : c.ensemble.Coherent)
    (h : c.Goes c') : first ≤ c'.ensemble.now ∧ first ≤ c'.ensemble.opened ∧
      ∀ t, c'.ensemble.manager.thread = some t → t.loop.started ≤ c'.ensemble.now := by
  rcases h.ensemble with moved | same
  · generalize c'.ensemble = s at moved
    cases moved with
    | pass onward =>
      exact ⟨Instant.le_trans measured.now onward, measured.opened,
        fun t thread => Instant.le_trans (measured.started t thread) onward⟩
    | @connect spawned opener manager steps =>
      refine ⟨measured.now, Ensemble.le_openedBy measured.now measured.opened, fun t there => ?_⟩
      rcases steps.started with same | ⟨t', thread, -, now⟩
      · exact measured.started t (same.symm.trans there)
      · cases thread.symm.trans there
        exact Nat.le_of_eq (congrArg Instant.toNanos now)
    | close there steps =>
      obtain ⟨-, thread, -⟩ := steps.closing (coherent.closers _ (List.mem_of_getElem? there))
      exact ⟨measured.now, measured.opened,
        fun t there => measured.started t (thread.symm.trans there)⟩
    | launch =>
      refine ⟨measured.now, measured.opened, fun t there => ?_⟩
      cases there
      exact Instant.le_refl _
    | @carryOut t d effect underway thread =>
      refine ⟨measured.now, measured.opened, fun t' there => ?_⟩
      cases there
      obtain ⟨same, reacted⟩ := coherent.underway d effect underway t thread
      have r := Loop.reacts_of_react? (coherent.lived t thread).calm reacted
      exact r.same.2 ▸ measured.started t thread
    | _ => exact ⟨measured.now, measured.opened, measured.started⟩
  · rw [same]
    exact ⟨measured.now, measured.opened, measured.started⟩

theorem Measured.beside (measured : c.Measured p first) (coherent : c.ensemble.Coherent)
    {e : Ensemble} (moved : Advances c.ensemble e) (beside : c.ensemble.Beside e)
    (absent : c.ensemble.manager.thread = none → c.poll.isIdle) {t : NetworkThread} {l : Loop}
    (thread : e.manager.thread = some t) (here : e.loop? = some l)
    (order : t.loop.started ≤ e.now) :
    Spaced p t.loop.started e.now l c.poll (failures e.decided) := by
  rw [coherent.failures_beside moved beside]
  rcases beside.thread t thread with ⟨t₀, before, -, started, same⟩ | ⟨none, fresh⟩
  · rw [beside.now, started]
    exact measured.spaced t₀ l before (same ▸ here)
  · obtain ⟨deeds, idle, -⟩ := coherent.absent none
    cases fresh.symm.trans here
    rw [measured.policy]
    exact .fresh order (absent none) (Ensemble.failures_unbegun deeds idle)

theorem Measured.step (measured : c.Measured p first) (sound : c.Sound) (h : c.Goes c') :
    c'.Measured p first := by
  obtain ⟨now, opened, started⟩ := measured.clock sound.coherent h
  refine ⟨h.policy.trans measured.policy, now, opened, started, fun t l thread here => ?_⟩
  cases h with
  | pass onward => exact (measured.spaced t l thread here).mono onward
  | launch before fresh idle untried resting =>
    cases thread
    simp only [Ensemble.loop?, idle] at here
    cases here
    rw [measured.policy]
    exact .fresh (Instant.le_refl _) resting (Ensemble.failures_unbegun fresh idle)
  | begin before idle polling resting calm =>
    cases before.symm.trans thread
    cases (Ensemble.loop?_of_idle thread idle).symm.trans here
    refine (measured.spaced t t.loop thread here).begin polling fun unconnected => ?_
    rw [← measured.policy, ← (sound.coherent.same_loop thread here).1]
    exact allows_of_isCalm calm unconnected
  | finish polled running =>
    have spaced := measured.spaced t l thread here
    refine { spaced with begun := fun _ => spaced.begun ?_ }
    exact eq_false_of_ne_true fun resting => by
      cases (Poll.isRunning_of_isIdle resting).symm.trans running
  | @react t' s loop effect before idle asked polled reacted =>
    cases before.symm.trans thread
    cases here
    have lived := sound.coherent.lived t thread
    have r := Loop.reacts_of_react? lived.calm reacted
    have spaced := measured.spaced t t.loop thread (Ensemble.loop?_of_idle thread idle)
    rw [Ensemble.decided_idle idle] at spaced
    have after := spaced.react r (lived.same.1.trans measured.policy) (fun poll => ?_) ?_
    · rw [← Loop.failures_snoc] at after
      exact after
    · exact eq_false_of_ne_true fun resting => by
        cases (Poll.isGiven_of_isIdle resting).symm.trans (polled poll)
    · rintro rfl wake pausing
      exact isDue_of_rested reacted pausing
  | beside moved beside =>
    exact measured.beside sound.coherent moved beside (fun none => (sound.absent none).2) thread
      here (started t thread)

theorem measured_of_run {m : Manager} (unused : m.Unused)
    (run : (start m first).run? moves = some c) : c.Sound ∧ c.Measured m.policy first := by
  refine foldlM_keeps_both (fun sound h => sound.step (goes_of_step? sound.coherent h))
    (fun sound measured h => measured.step sound (goes_of_step? sound.coherent h))
    ⟨sound_start unused first, ?_⟩ run
  refine ⟨rfl, Instant.le_refl _, Instant.le_refl _, fun t thread => ?_, fun t l thread => ?_⟩
  · cases unused.thread.symm.trans thread
  · cases unused.thread.symm.trans thread

/-! ### A thread whose attempts fail at once -/

/-- Some run leads from one to the other. -/
def Reaches (c c' : Campaign) : Prop := ∃ moves, c.run? moves = some c'

theorem Reaches.trans {c'' : Campaign} (first : c.Reaches c') (second : c'.Reaches c'') :
    c.Reaches c'' := by
  obtain ⟨moves, run⟩ := first
  obtain ⟨others, rest⟩ := second
  exact ⟨moves ++ others, (foldlM_append_of_eq_some run).trans rest⟩

theorem step?_finish {l : Loop} (running : c.poll = .running) (here : c.ensemble.loop? = some l)
    (calm : c.isCalm l) (polled : Polled) :
    c.step? (.finish polled) = some { c with poll := .given polled } := by
  simp [step?, running, Poll.isRunning, here, calm]

theorem step?_heed {t : NetworkThread} {polled : Polled} {loop : Loop} {effect : Effect}
    (given : c.poll = .given polled) (thread : c.ensemble.manager.thread = some t)
    (idle : c.ensemble.underway = none)
    (reacted : t.loop.react? c.ensemble.now (.polled polled) = some (loop, effect)) :
    let d : Loop.Deed := ⟨c.ensemble.now, t.loop, .polled polled, loop⟩
    c.step? .heed = some
      { ensemble := { c.ensemble with underway := some (d, effect) }
        poll := .idle
        attempts := noted d c.attempts } := by
  simp [step?, given, reacts?, Ensemble.step?, thread, idle, Ensemble.isUnasked, reacted]

/-- Such a thread stands so between two of its steps. Nobody has asked it to stop, and the call to
connect sleeps and has been told nothing. -/
structure Poised (p : RetryPolicy) (started : Instant) (stage : Stage) (failed : Nat)
    (c : Campaign) (t : NetworkThread) : Prop where
  thread : c.ensemble.manager.thread = some t
  idle : c.ensemble.underway = none
  resting : c.poll.isIdle
  asleep : c.ensemble.opener = .asleep (p.deadline? started)
  pending : c.ensemble.manager.signal.outcome = .pending
  stage : t.loop.stage = stage
  unconnected : t.loop.connected = false
  policy : t.loop.policy = p
  started : t.loop.started = started
  unasked : ¬ t.heard < c.ensemble.manager.stops
  failed : failures c.ensemble.deeds = failed

variable {started wake : Instant} {n : Nat} {t : NetworkThread}

theorem poised_start {m : Manager} (unused : m.Unused) (now : Instant) :
    ∃ c t, (start m now).Reaches c ∧ c.ensemble.now = now ∧
      c.Poised m.policy now .polling 0 t := by
  obtain ⟨options, p, link, signal, transport, stops, thread, joinable⟩ := m
  obtain ⟨side, found⟩ := Option.ne_none_iff_exists'.mp unused.transport
  cases unused.signal
  cases found
  let t : NetworkThread := ⟨.fresh p now, side, stops, none⟩
  let signal : Signal := ⟨.connecting, .pending, [⟨0, p.deadline? now, p⟩], []⟩
  let manager : Manager := ⟨options, p, link, signal, none, stops, some t, true⟩
  let s : Ensemble := ⟨manager, now, .asleep (p.deadline? now), [], now, none, []⟩
  refine ⟨⟨s, .idle, []⟩, t, ⟨List.replicate 6 (.beside (.connect (.ok ()))), rfl⟩, rfl, ?_⟩
  exact ⟨rfl, rfl, rfl, rfl, rfl, rfl, rfl, rfl, rfl, Nat.lt_irrefl _, rfl⟩

/-- With time for another attempt, a thread makes one that fails at once. -/
theorem Poised.fails (poised : c.Poised p started .polling n t)
    (early : p.Allows started c.ensemble.now) : ∃ c' t', c.Reaches c' ∧
      c'.ensemble.now = c.ensemble.now ∧
      c'.Poised p started (.pausing (c.ensemble.now.after? p.interval)) (n + 1) t' := by
  obtain ⟨thread, idle, resting, asleep, pending, polling, unconnected, rfl, rfl, unasked,
    failed⟩ := poised
  have calm {poll : Poll} {attempts : List Attempt} :
      isCalm ⟨c.ensemble, poll, attempts⟩ t.loop := isCalm_of_early thread unasked early
  have here := Ensemble.loop?_of_idle thread idle
  let failure : Polled := .error (.io "refused")
  let loop : Loop := { t.loop with
    attempts := t.loop.attempts + 1
    stage := .pausing (c.ensemble.now.after? t.loop.policy.interval) }
  have reacted := Loop.react?_failure polling unconnected (e := .io "refused") rfl early
  -- The moments between its four steps.
  let d : Loop.Deed := ⟨c.ensemble.now, t.loop, .polled failure, loop⟩
  let c₁ : Campaign := { c with
    poll := .running
    attempts := if t.loop.connected then c.attempts else attempted c.ensemble.now c.attempts }
  let c₂ : Campaign := { c₁ with poll := .given failure }
  let c₃ : Campaign :=
    ⟨{ c.ensemble with underway := some (d, .none) }, .idle, noted d c₂.attempts⟩
  let c₄ : Campaign := { c₃ with
    ensemble.manager.thread := some { t with loop }
    ensemble.underway := none
    ensemble.deeds := c.ensemble.deeds ++ [d] }
  have begun : c.step? .begin = some c₁ := step?_begin thread idle polling resting calm
  have finished : c₁.step? (.finish failure) = some c₂ :=
    step?_finish (c := c₁) rfl here calm failure
  have heeded : c₂.step? .heed = some c₃ := step?_heed rfl thread idle reacted
  have done : c₃.step? (.beside .carryOut) = some c₄ := step?_carryOut (c := c₃) thread rfl
  refine ⟨c₄, { t with loop }, ⟨[.begin, .finish failure, .heed, .beside .carryOut], ?_⟩, rfl,
    rfl, rfl, rfl, asleep, pending, rfl, unconnected, rfl, rfl, unasked, ?_⟩
  · simp only [run?, List.foldlM_cons, begun, finished, heeded, done, Option.bind_eq_bind,
      Option.bind_some]
    rfl
  · have counted : d.isFailure :=
      Loop.Deed.isFailure_iff.mpr ⟨.io "refused", rfl, unconnected, rfl⟩
    change failures (c.ensemble.deeds ++ [d]) = n + 1
    rw [Loop.failures_snoc, failed, counted]
    rfl

/-- With time left at the end of its pause, a thread goes on just then. -/
theorem Poised.rests (poised : c.Poised p started (.pausing (some wake)) n t)
    (onward : c.ensemble.now ≤ wake) (early : p.Allows started wake) : ∃ c' t', c.Reaches c' ∧
      c'.ensemble.now = wake ∧ c'.Poised p started .polling n t' := by
  obtain ⟨thread, idle, -, asleep, pending, pausing, unconnected, rfl, rfl, unasked,
    failed⟩ := poised
  let loop : Loop := { t.loop with stage := .polling }
  have rested := run?_afterRest thread idle pausing unconnected onward unasked early
  refine ⟨c.afterRest t wake, { t with loop }, ⟨_, rested⟩, rfl, ?_⟩
  refine ⟨rfl, rfl, rfl, asleep, pending, rfl, unconnected, rfl, rfl, unasked, ?_⟩
  change failures (c.ensemble.deeds ++ [⟨wake, t.loop, .rested, loop⟩]) = n
  rw [Loop.failures_snoc, failed]
  rfl

theorem exists_round {m : Manager} (unused : m.Unused) (now : Instant)
    (time : m.policy.HasTimeFor now n) : ∃ c t, (start m now).Reaches c ∧
      c.ensemble.now.toNanos = now.toNanos + n * m.policy.interval.toNanos ∧
      c.Poised m.policy now .polling n t := by
  induction n with
  | zero =>
    obtain ⟨c, t, reached, here, poised⟩ := poised_start unused now
    exact ⟨c, t, reached, by rw [here, Nat.zero_mul, Nat.add_zero], poised⟩
  | succ n ih =>
    have before := time.fewer (Nat.le_succ n)
    obtain ⟨c, t, reached, here, poised⟩ := ih before
    obtain ⟨c', t', failed, still, paused⟩ := poised.fails (before.allows here)
    -- One interval later the clock still shows the end of the pause, and the time is not up.
    have later : now.toNanos + (n + 1) * m.policy.interval.toNanos =
        c.ensemble.now.toNanos + m.policy.interval.toNanos := by
      rw [here, Nat.add_mul, Nat.one_mul, Nat.add_assoc]
    let wake : Instant := ⟨now.toNanos + (n + 1) * m.policy.interval.toNanos, time.shown⟩
    have shown : c.ensemble.now.after? m.policy.interval = some wake :=
      Instant.after?_eq_some_iff.mpr later.symm
    rw [shown] at paused
    obtain ⟨c'', t'', rested, woken, poised⟩ :=
      paused.rests (still ▸ Instant.le_after? shown) (time.allows rfl)
    exact ⟨c'', t'', (reached.trans failed).trans rested, by rw [woken], poised⟩

/-- As often as there is time for, a thread may fail, while the call to connect knows of nothing. -/
theorem exists_failures {m : Manager} (unused : m.Unused) (now : Instant)
    (time : m.policy.HasTimeFor now n) : ∃ c l, (start m now).Reaches c ∧
      c.ensemble.loop? = some l ∧ l.connected = false ∧ failures c.ensemble.decided = n + 1 ∧
      c.ensemble.opener = .asleep (m.policy.deadline? now) ∧
      c.ensemble.manager.signal.outcome = .pending := by
  obtain ⟨c, t, reached, here, poised⟩ := exists_round unused now time
  obtain ⟨c', t', failed, -, paused⟩ := poised.fails (time.allows here)
  refine ⟨c', t'.loop, reached.trans failed, Ensemble.loop?_of_idle paused.thread paused.idle,
    paused.unconnected, ?_, paused.asleep, paused.pending⟩
  rw [Ensemble.decided_idle paused.idle]
  exact paused.failed

/-! ### The count of the failures -/

theorem Sound.exists_thread (sound : c.Sound) {l : Loop} (here : c.ensemble.loop? = some l) :
    ∃ t, c.ensemble.manager.thread = some t := by
  cases thread : c.ensemble.manager.thread with
  | some t => exact ⟨t, rfl⟩
  | none =>
    obtain ⟨-, idle, -⟩ := sound.coherent.absent thread
    rw [Ensemble.loop?, idle, thread] at here
    cases here

/-- Where the count of a thread stands, and how many failures its policy had time for. -/
structure Counted (p : RetryPolicy) (first : Instant) (l : Loop) (deeds : List Loop.Deed) :
    Prop where
  /-- The count is what 32 bits hold of the number of failures. -/
  held : l.attempts.toNat = failures deeds % 4294967296
  /-- It is all of them, and none of them found it full, just as long as they are few enough. -/
  all_iff : l.CountsAll deeds ↔ failures deeds < 4294967296
  /-- Each began in time, and after a whole pause for each before it. -/
  inTime : ∀ n < failures deeds, p.HasTimeFor first n

theorem Measured.counted (measured : c.Measured p first) (sound : c.Sound) {l : Loop}
    (here : c.ensemble.loop? = some l) : Counted p first l c.ensemble.decided := by
  obtain ⟨t, thread⟩ := sound.exists_thread here
  have lived := sound.coherent.lived_loop thread here
  have order := Instant.le_trans measured.opened (sound.timely.started t thread)
  exact ⟨lived.toNat_attempts, lived.countsAll_iff,
    fun n few => ((measured.spaced t l thread here).inTime n few).sooner order⟩

/-- The count is right as long as there are fewer failures than 2^32. It always is just if there is
no time for more: the policy's must be up, or the clock at its end, before so many pauses are
over. -/
theorem counts_unless_full {m : Manager} (unused : m.Unused) (now : Instant) :
    (∀ c l, (start m now).Reaches c → c.ensemble.loop? = some l →
      Counted m.policy now l c.ensemble.decided) ∧
    ((∀ c l, (start m now).Reaches c → c.ensemble.loop? = some l →
        l.CountsAll c.ensemble.decided) ↔
      (∃ budget, m.policy.timeout = some budget ∧
        budget.toNanos ≤ 4294967295 * m.policy.interval.toNanos) ∨
      clockSecs * nanosPerSec ≤ now.toNanos + 4294967295 * m.policy.interval.toNanos) := by
  have counted c l (reached : (start m now).Reaches c) (here : c.ensemble.loop? = some l) :
      Counted m.policy now l c.ensemble.decided := by
    obtain ⟨moves, run⟩ := reached
    obtain ⟨sound, measured⟩ := measured_of_run unused run
    exact measured.counted sound here
  refine ⟨counted, ?_⟩
  rw [← RetryPolicy.not_hasTimeFor_iff]
  constructor
  · intro all time
    obtain ⟨c, l, reached, here, -, failed, -⟩ := exists_failures unused now time
    have few := (counted c l reached here).all_iff.mp (all c l reached here)
    rw [failed] at few
    exact Nat.lt_irrefl _ few
  · intro short c l reached here
    have counted := counted c l reached here
    refine counted.all_iff.mpr (Nat.lt_of_not_le fun full => short ?_)
    exact counted.inTime 4294967295 full

theorem counts_of_twoAttempts :
    ∃ c l, (start (Ensemble.newManager impatient) .origin).run? twoAttempts = some c ∧
      c.ensemble.loop? = some l ∧ l.CountsAll c.ensemble.decided ∧ l.attempts = 2 ∧
      failures c.ensemble.decided = 2 :=
  ⟨_, _, rfl, rfl, (counts_unless_full (Ensemble.newManager_unused impatient) .origin).2.mpr
    (.inl ⟨_, rfl, by decide⟩) _ _ ⟨twoAttempts, rfl⟩ rfl, rfl, rfl⟩

/-- Settings for a client that tries again a thousand times in a second and never gives up. -/
def restless : Config :=
  ⟨{ subscribeTopic := "in", publishTopic := "out" }, { retryIntervalMs := 1 }⟩

/-- Such a client can fail 2^32 times. The last of them finds its count full and leaves a count of
none, while the call to connect sleeps without a deadline and has been told nothing. -/
theorem not_counts_all : ∃ m, restless.validate = .ok () ∧
    Manager.create "me" restless [] = .ok m ∧ ∃ c l,
      (start m .origin).Reaches c ∧ c.ensemble.loop? = some l ∧ l.connected = false ∧
      failures c.ensemble.decided = 4294967296 ∧ l.attempts = 0 ∧
      (∃ d ∈ c.ensemble.decided, d.overflows) ∧ c.ensemble.opener = .asleep none ∧
      c.ensemble.manager.signal.outcome = .pending := by
  obtain ⟨m, created, policy⟩ : ∃ m, Manager.create "me" restless [] = .ok m ∧
      m.policy = .ofConfig restless := ⟨_, rfl, rfl⟩
  have unused := Manager.create_unused created
  have time : m.policy.HasTimeFor .origin 4294967295 := by
    rw [policy]
    exact ⟨by decide, nofun⟩
  obtain ⟨c, l, ⟨moves, run⟩, here, unconnected, failed, asleep, pending⟩ :=
    exists_failures unused .origin time
  obtain ⟨sound, -⟩ := measured_of_run unused run
  obtain ⟨t, thread⟩ := sound.exists_thread here
  have lived := sound.coherent.lived_loop thread here
  refine ⟨m, rfl, created, c, l, ⟨moves, run⟩, here, unconnected, failed, ?_, ?_, ?_, pending⟩
  · rw [lived.attempts_eq, failed]
    rfl
  · exact lived.overflows_iff.mpr (Nat.le_of_eq failed.symm)
  · rw [asleep, policy]
    rfl

end Campaign

end Courier
