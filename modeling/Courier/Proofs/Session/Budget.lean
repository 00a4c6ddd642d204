import Courier.Proofs.Session.Campaign

/-!
# How a network thread spends its time

What the attempts of a thread tell at every moment, by where the thread stands, and what it comes
to: no attempt is begun once the time is up, and between two attempts there is one whole pause.
-/

namespace Courier

namespace Campaign

open Ensemble (Advances)

variable {c c' : Campaign} {move : Move} {moves : List Move}

/-! ## What holds at every moment -/

/-- What may end a pause after a failure, and when. -/
def EndsPause (p : RetryPolicy) (started : Instant) (asked : Prop) (failed ended : Instant) :
    Stimulus → Prop
  | .rested => failed.after? p.interval = some ended
  | .deadline => p.deadline? started = some ended ∧
    ∀ wake, failed.after? p.interval = some wake → ended ≤ wake
  | .shutdown => asked ∧ ∀ wake, failed.after? p.interval = some wake → ended ≤ wake
  | _ => False

/-- An attempt that kept to its time, and the pause after it. -/
structure Kept (p : RetryPolicy) (started now : Instant) (asked : Prop) (a : Attempt) : Prop where
  inTime : ∀ t ∈ a.polls, p.Allows started t
  pause : ∀ ended s, a.pause = some (ended, s) → ended ≤ now ∧
    ∃ failed e, a.failure = some (failed, e) ∧ e.isFatal = false ∧ failed ≤ ended ∧
      EndsPause p started asked failed ended s

/-- One attempt comes after another that failed, and after one whole pause. -/
def Follows (p : RetryPolicy) (later earlier : Attempt) : Prop :=
  ∃ failed e ended, earlier.failure = some (failed, e) ∧ e.isFatal = false ∧
    earlier.pause = some (ended, .rested) ∧ failed.after? p.interval = some ended ∧
    ∀ t ∈ later.polls, ended ≤ t

/-- Where the thread stands, by its attempts. -/
inductive Standing (p : RetryPolicy) (started now : Instant) (asked : Prop) (l : Loop)
    (poll : Poll) : List Attempt → Prop where
  | connected {attempts : List Attempt} (connected : l.connected)
      (going : ∀ a earlier, attempts = a :: earlier → a.failure = none) :
      Standing p started now asked l poll attempts
  | fresh (polling : l.stage = .polling) (unconnected : l.connected = false)
      (resting : poll.isIdle) : Standing p started now asked l poll []
  | trying {a : Attempt} {earlier : List Attempt} (polling : l.stage = .polling)
      (unconnected : l.connected = false) (going : a.failure = none) (unpaused : a.pause = none) :
      Standing p started now asked l poll (a :: earlier)
  | pausing {a : Attempt} {earlier : List Attempt} {failed : Instant} {e : TransportError}
      (pausing : l.stage = .pausing (failed.after? p.interval)) (unconnected : l.connected = false)
      (resting : poll.isIdle) (failure : a.failure = some (failed, e)) (passing : e.isFatal = false)
      (unpaused : a.pause = none) (past : failed ≤ now)
      (early : ∀ wake, failed.after? p.interval = some wake → now ≤ wake)
      (inTime : ∀ deadline, p.deadline? started = some deadline → now ≤ deadline) :
      Standing p started now asked l poll (a :: earlier)
  | rested {a : Attempt} {earlier : List Attempt} {failed ended : Instant} {e : TransportError}
      (polling : l.stage = .polling) (unconnected : l.connected = false) (resting : poll.isIdle)
      (failure : a.failure = some (failed, e)) (passing : e.isFatal = false)
      (pause : a.pause = some (ended, .rested))
      (whole : failed.after? p.interval = some ended) (past : ended ≤ now) :
      Standing p started now asked l poll (a :: earlier)
  | left {attempts : List Attempt} (outside : l.stage.isInside = false)
      (unconnected : l.connected = false)
      (why : ∀ a earlier failed e, attempts = a :: earlier → a.failure = some (failed, e) →
        e.isFatal = false → asked ∨ Loop.isDue (p.deadline? started) now) :
      Standing p started now asked l poll attempts

/-- What the attempts of a thread tell that goes by a policy from a start. -/
structure Recorded (p : RetryPolicy) (started now : Instant) (asked : Prop) (l : Loop) (poll : Poll)
    (attempts : List Attempt) : Prop where
  kept : ∀ a ∈ attempts, Kept p started now asked a
  chain : attempts.IsChain (Follows p)
  standing : Standing p started now asked l poll attempts

section

variable {p : RetryPolicy} {started now later : Instant} {asked asked' : Prop} {l l' : Loop}
  {poll poll' : Poll} {a : Attempt} {attempts : List Attempt}

theorem EndsPause.mono {failed ended : Instant} {s : Stimulus}
    (h : EndsPause p started asked failed ended s) (still : asked → asked') :
    EndsPause p started asked' failed ended s := by
  cases s with
  | shutdown => exact h.imp_left still
  | _ => exact h

theorem Kept.mono (kept : Kept p started now asked a) (onward : now ≤ later)
    (still : asked → asked') : Kept p started later asked' a := by
  refine ⟨kept.inTime, fun ended s pause => ?_⟩
  obtain ⟨past, failed, e, failure, passing, order, ends⟩ := kept.pause ended s pause
  exact ⟨Instant.le_trans past onward, failed, e, failure, passing, order, ends.mono still⟩

theorem isDue_mono {deadline : Option Instant} (due : Loop.isDue deadline now)
    (onward : now ≤ later) : Loop.isDue deadline later := by
  obtain ⟨d, limit, past⟩ := Loop.isDue_iff.mp due
  exact Loop.isDue_iff.mpr ⟨d, limit, Instant.le_trans past onward⟩

/-- Neither the end of the pause nor that of all attempts is past. -/
def WaitsUntil (p : RetryPolicy) (started : Instant) (wake : Option Instant) (now : Instant) :
    Prop :=
  (∀ w, wake = some w → now ≤ w) ∧
    ∀ deadline, p.deadline? started = some deadline → now ≤ deadline

theorem Standing.going (standing : Standing p started now asked l poll attempts)
    (connected : l.connected) : ∀ a earlier, attempts = a :: earlier → a.failure = none := by
  cases standing with
  | connected _ going => exact going
  | fresh _ unconnected | trying _ unconnected | pausing _ unconnected | rested _ unconnected
  | left _ unconnected => exact absurd connected (ne_true_of_eq_false unconnected)

theorem Standing.waits (standing : Standing p started now asked l poll attempts)
    (unconnected : l.connected = false) {wake : Option Instant}
    (pausing : l.stage = .pausing wake) : WaitsUntil p started wake now := by
  cases standing with
  | connected connected => exact absurd connected (ne_true_of_eq_false unconnected)
  | pausing stage _ _ _ _ _ _ early inTime =>
    cases stage.symm.trans pausing
    exact ⟨early, inTime⟩
  | fresh polling | trying polling | rested polling => cases polling.symm.trans pausing
  | left outside =>
    rw [pausing] at outside
    cases outside

/-- A thread pauses only after an attempt that failed. -/
theorem Standing.latest (standing : Standing p started now asked l poll attempts)
    (unconnected : l.connected = false) {wake : Option Instant}
    (pausing : l.stage = .pausing wake) :
    ∃ a earlier failure, attempts = a :: earlier ∧ a.failure = some failure := by
  cases standing with
  | connected connected => exact absurd connected (ne_true_of_eq_false unconnected)
  | pausing _ _ _ failure => exact ⟨_, _, _, rfl, failure⟩
  | fresh polling | trying polling | rested polling => cases polling.symm.trans pausing
  | left outside =>
    rw [pausing] at outside
    cases outside

/-- The clock goes on, or the thread is asked to stop. -/
theorem Standing.mono (standing : Standing p started now asked l poll attempts)
    (onward : now ≤ later) (still : asked → asked')
    (waits : l.connected = false →
      ∀ wake, l.stage = .pausing wake → WaitsUntil p started wake later) :
    Standing p started later asked' l poll attempts := by
  cases standing with
  | connected connected going => exact .connected connected going
  | fresh polling unconnected resting => exact .fresh polling unconnected resting
  | trying polling unconnected going unpaused => exact .trying polling unconnected going unpaused
  | pausing pausing unconnected resting failure passing unpaused past =>
    obtain ⟨wake, deadline⟩ := waits unconnected _ pausing
    exact .pausing pausing unconnected resting failure passing unpaused
      (Instant.le_trans past onward) wake deadline
  | rested polling unconnected resting failure passing pause whole past =>
    exact .rested polling unconnected resting failure passing pause whole
      (Instant.le_trans past onward)
  | left outside unconnected why =>
    refine .left outside unconnected fun a earlier failed e here failure passing => ?_
    exact (why a earlier failed e here failure passing).imp still (isDue_mono · onward)

theorem Recorded.mono (recorded : Recorded p started now asked l poll attempts)
    (onward : now ≤ later) (still : asked → asked')
    (waits : l.connected = false →
      ∀ wake, l.stage = .pausing wake → WaitsUntil p started wake later) :
    Recorded p started later asked' l poll attempts where
  kept a there := (recorded.kept a there).mono onward still
  chain := recorded.chain
  standing := recorded.standing.mono onward still waits

theorem Recorded.fresh (polling : l.stage = .polling) (unconnected : l.connected = false)
    (resting : poll.isIdle) : Recorded p started now asked l poll [] where
  kept a there := by cases there
  chain := .nil
  standing := .fresh polling unconnected resting

/-- The latest attempt changes, and goes on keeping to its time after the one before. -/
theorem Recorded.head {a' : Attempt} {earlier : List Attempt}
    (recorded : Recorded p started now asked l poll (a :: earlier))
    (kept : Kept p started now asked a')
    (polls : ∀ b ∈ earlier, Follows p a b → Follows p a' b)
    (standing : Standing p started now asked l' poll' (a' :: earlier)) :
    Recorded p started now asked l' poll' (a' :: earlier) where
  kept := List.forall_mem_cons.mpr ⟨kept, (List.forall_mem_cons.mp recorded.kept).2⟩
  chain := by
    cases recorded.chain with
    | singleton => exact .singleton _
    | cons_cons follows chain => exact .cons_cons (polls _ List.mem_cons_self follows) chain
  standing := standing

/-! ### A poll begins -/

theorem kept_new (early : p.Allows started now) : Kept p started now asked ⟨[now], none, none⟩ where
  inTime t there := by
    rw [List.mem_singleton.mp there]
    exact early
  pause ended s pause := by cases pause

theorem Recorded.begin (recorded : Recorded p started now asked l poll attempts)
    (polling : l.stage = .polling) (unconnected : l.connected = false)
    (early : p.Allows started now) :
    Recorded p started now asked l .running (attempted now attempts) := by
  have new : Kept p started now asked ⟨[now], none, none⟩ := kept_new early
  cases recorded.standing with
  | connected connected => exact absurd connected (ne_true_of_eq_false unconnected)
  | fresh =>
    refine ⟨fun a there => ?_, .singleton _, .trying polling unconnected rfl rfl⟩
    rw [List.mem_singleton.mp there]
    exact new
  | @trying a earlier _ _ going unpaused =>
    obtain ⟨own, others⟩ := List.forall_mem_cons.mp recorded.kept
    rw [attempted, if_pos (by rw [going]; rfl)]
    refine recorded.head ⟨?_, fun ended s pause => ?_⟩ (fun b there follows => ?_)
      (.trying polling unconnected going unpaused)
    · exact List.forall_mem_cons.mpr ⟨early, own.inTime⟩
    · cases unpaused.symm.trans pause
    · obtain ⟨failed, e, ended, failure, passing, pause, whole, order⟩ := follows
      have past := ((others b there).pause ended .rested pause).1
      exact ⟨failed, e, ended, failure, passing, pause, whole,
        List.forall_mem_cons.mpr ⟨past, order⟩⟩
  | pausing pausing => cases polling.symm.trans pausing
  | @rested a earlier failed ended e _ _ _ failure passing pause whole past =>
    rw [attempted, if_neg (by simp [failure])]
    refine ⟨List.forall_mem_cons.mpr ⟨new, recorded.kept⟩, .cons_cons ?_ recorded.chain,
      .trying polling unconnected rfl rfl⟩
    refine ⟨failed, e, ended, failure, passing, pause, whole, fun t there => ?_⟩
    rw [List.mem_singleton.mp there]
    exact past
  | left outside => exact absurd (Stage.isInside_of_polling polling) (ne_true_of_eq_false outside)

/-- The poll gives something, and the thread has not reacted yet. -/
theorem Recorded.finish (recorded : Recorded p started now asked l poll attempts)
    (running : poll.isRunning) (polled : Polled) :
    Recorded p started now asked l (.given polled) attempts := by
  have busy (resting : poll.isIdle) : False :=
    ne_true_of_eq_false (Poll.isRunning_of_isIdle resting) running
  refine ⟨recorded.kept, recorded.chain, ?_⟩
  cases recorded.standing with
  | connected connected going => exact .connected connected going
  | trying polling unconnected going unpaused => exact .trying polling unconnected going unpaused
  | left outside unconnected why => exact .left outside unconnected why
  | fresh _ _ resting | pausing _ _ resting | rested _ _ resting => exact (busy resting).elim

/-! ### The thread reacts -/

theorem noted_connected {d : Loop.Deed} (connected : d.before.connected) :
    noted d attempts = attempts := by
  cases attempts with
  | nil => rfl
  | cons a earlier => simp [noted, connected]

theorem noted_calm {d : Loop.Deed} (steady : d.before.stage.isPause = false)
    (other : d.stimulus.isError = false) : noted d attempts = attempts := by
  cases attempts with
  | nil => rfl
  | cons a earlier =>
    simp only [noted]
    split
    · rfl
    · split
      · rename_i failed
        rw [failed] at other
        cases other
      · rename_i pausing
        rw [pausing] at steady
        cases steady
      · rfl

theorem noted_failure {earlier : List Attempt} {e : TransportError} (polling : l.stage = .polling)
    (unconnected : l.connected = false) :
    noted ⟨now, l, .polled (.error e), l'⟩ (a :: earlier) =
      { a with failure := some (now, e) } :: earlier := by
  simp [noted, polling, unconnected]

theorem noted_pause {earlier : List Attempt} {wake : Option Instant} {s : Stimulus}
    (pausing : l.stage = .pausing wake) (unconnected : l.connected = false) :
    noted ⟨now, l, s, l'⟩ (a :: earlier) = { a with pause := some (now, s) } :: earlier := by
  simp [noted, pausing, unconnected]

/-- Without a poll, a thread that does not pause goes on as it is or leaves. -/
theorem Recorded.leave {s : Stimulus} {effect : Effect} (recorded : Recorded p started now asked l
      poll attempts) (r : Loop.Reacts l now s l' effect) (polling : l.stage = .polling)
    (unconnected : l.connected = false) (unpolled : s.isPoll = false)
    (why : s = .shutdown ∨ s = .deadline ∧ Loop.isDue (l.policy.deadline? l.started) now →
      asked ∨ Loop.isDue (p.deadline? started) now) :
    Recorded p started now asked l' .idle (noted ⟨now, l, s, l'⟩ attempts) := by
  have steady : l.stage.isPause = false := by rw [polling]; rfl
  rw [noted_calm steady (Stimulus.isError_of_unpolled unpolled)]
  obtain ⟨unconnected', ⟨-, pausing, -⟩ | ⟨outside, reason⟩⟩ :=
    r.unpolled (Stage.isInside_of_polling polling) unconnected unpolled
  · exact absurd pausing (ne_true_of_eq_false steady)
  · exact ⟨recorded.kept, recorded.chain, .left outside unconnected' fun _ _ _ _ _ _ _ =>
      why reason⟩

theorem Recorded.heed {s : Stimulus} {effect : Effect} {earlier : List Attempt}
    (recorded : Recorded p started now asked l poll (a :: earlier))
    (r : Loop.Reacts l now s l' effect) (policy : l.policy = p) (begun : l.started = started)
    (polling : l.stage = .polling) (unconnected : l.connected = false) (going : a.failure = none)
    (unpaused : a.pause = none) (polled : s.isPoll) :
    Recorded p started now asked l' .idle (noted ⟨now, l, s, l'⟩ (a :: earlier)) := by
  have steady : l.stage.isPause = false := by rw [polling]; rfl
  have own := (List.forall_mem_cons.mp recorded.kept).1
  have failed (e : TransportError) : Kept p started now asked { a with failure := some (now, e) } :=
    ⟨own.inTime, fun ended s pause => by cases unpaused.symm.trans pause⟩
  cases r with
  | stop | drain | expire | retry | drained | finish | settle => cases polled
  | lose _ connected => exact absurd connected (ne_true_of_eq_false unconnected)
  | establish _ success =>
    have other : s.isError = false :=
      eq_false_of_ne_true fun error => by
        cases success.symm.trans (Stimulus.isSuccess_of_isError error)
    rw [noted_calm steady other]
    refine ⟨recorded.kept, recorded.chain, .connected rfl fun b rest here => ?_⟩
    cases here
    exact going
  | observe =>
    rw [noted_calm steady rfl]
    exact ⟨recorded.kept, recorded.chain, .trying polling unconnected going unpaused⟩
  | part _ farewell =>
    rw [noted_calm steady (Stimulus.isError_of_isFarewell farewell)]
    refine ⟨recorded.kept, recorded.chain,
      .left rfl unconnected fun b rest failed e here failure _ => ?_⟩
    cases here
    cases going.symm.trans failure
  | @refuse e _ _ fatal =>
    rw [noted_failure polling unconnected]
    refine recorded.head (failed e) (fun _ _ follows => follows)
      (.left rfl unconnected fun b rest failed e' here failure passing => ?_)
    cases here
    cases failure
    exact absurd fatal (ne_true_of_eq_false passing)
  | @spend e _ _ passing due =>
    rw [noted_failure polling unconnected]
    refine recorded.head (failed e) (fun _ _ follows => follows)
      (.left rfl unconnected fun _ _ _ _ _ _ _ => .inr ?_)
    rw [← policy, ← begun]
    exact due
  | @pause e _ _ passing early =>
    rw [noted_failure polling unconnected]
    refine recorded.head (failed e) (fun _ _ follows => follows)
      (.pausing (by rw [policy]) unconnected rfl rfl passing unpaused (Instant.le_refl _) ?_ ?_)
    · exact fun wake shown => Instant.le_after? shown
    · rw [← policy, ← begun]
      exact fun deadline limit => Instant.le_of_not_le (Loop.not_le_of_isDue early limit)

/-- The pause ends: it was a whole one, or something else comes before its end. -/
theorem Recorded.wake {s : Stimulus} {effect : Effect} {earlier : List Attempt} {failed : Instant}
    {e : TransportError} (recorded : Recorded p started now asked l poll (a :: earlier))
    (r : Loop.Reacts l now s l' effect) (policy : l.policy = p) (begun : l.started = started)
    (pausing : l.stage = .pausing (failed.after? p.interval)) (unconnected : l.connected = false)
    (failure : a.failure = some (failed, e)) (passing : e.isFatal = false) (past : failed ≤ now)
    (early : ∀ wake, failed.after? p.interval = some wake → now ≤ wake)
    (inTime : ∀ deadline, p.deadline? started = some deadline → now ≤ deadline)
    (unpolled : s.isPoll = false) (stopped : s = .shutdown → asked)
    (woken : s = .rested → Loop.isDue (failed.after? p.interval) now) :
    Recorded p started now asked l' .idle (noted ⟨now, l, s, l'⟩ (a :: earlier)) := by
  have own := (List.forall_mem_cons.mp recorded.kept).1
  have ended (ends : EndsPause p started asked failed now s) :
      Kept p started now asked { a with pause := some (now, s) } := by
    refine ⟨own.inTime, fun ended s pause => ?_⟩
    cases pause
    exact ⟨Instant.le_refl _, failed, e, failure, passing, past, ends⟩
  rw [noted_pause pausing unconnected]
  obtain ⟨unconnected', ⟨rfl, -, polling⟩ | ⟨outside, reason⟩⟩ :=
    r.unpolled (by rw [pausing]; rfl) unconnected unpolled
  · obtain ⟨wake, shown, due⟩ := Loop.isDue_iff.mp (woken rfl)
    obtain rfl : wake = now := Instant.le_antisymm due (early wake shown)
    exact recorded.head (ended shown) (fun _ _ follows => follows)
      (.rested polling unconnected' rfl failure passing rfl shown (Instant.le_refl _))
  · rcases reason with rfl | ⟨rfl, due⟩
    · exact recorded.head (ended ⟨stopped rfl, early⟩) (fun _ _ follows => follows)
        (.left outside unconnected' fun _ _ _ _ _ _ _ => .inl (stopped rfl))
    · rw [policy, begun] at due
      obtain ⟨deadline, limit, reached⟩ := Loop.isDue_iff.mp due
      obtain rfl : deadline = now := Instant.le_antisymm reached (inTime deadline limit)
      exact recorded.head (ended ⟨limit, early⟩) (fun _ _ follows => follows)
        (.left outside unconnected' fun _ _ _ _ _ _ _ => .inr due)

theorem Recorded.react {s : Stimulus} {effect : Effect}
    (recorded : Recorded p started now asked l poll attempts) (r : Loop.Reacts l now s l' effect)
    (policy : l.policy = p) (begun : l.started = started) (polled : s.isPoll → poll.isGiven)
    (stopped : s = .shutdown → asked)
    (woken : s = .rested → ∀ wake, l.stage = .pausing wake → Loop.isDue wake now) :
    Recorded p started now asked l' .idle (noted ⟨now, l, s, l'⟩ attempts) := by
  have unpolled (resting : poll.isIdle) : s.isPoll = false :=
    eq_false_of_ne_true fun isPoll => by
      cases (Poll.isGiven_of_isIdle resting).symm.trans (polled isPoll)
  have why : s = .shutdown ∨ s = .deadline ∧ Loop.isDue (l.policy.deadline? l.started) now →
      asked ∨ Loop.isDue (p.deadline? started) now := by
    rw [policy, begun]
    exact Or.imp stopped And.right
  cases recorded.standing with
  | connected connected going =>
    rw [noted_connected connected]
    exact ⟨recorded.kept, recorded.chain,
      .connected (r.connected_iff.mpr (.inl connected)) going⟩
  | fresh polling unconnected resting =>
    exact recorded.leave r polling unconnected (unpolled resting) why
  | trying polling unconnected going unpaused =>
    cases isPoll : s.isPoll with
    | true => exact recorded.heed r policy begun polling unconnected going unpaused isPoll
    | false => exact recorded.leave r polling unconnected isPoll why
  | pausing pausing unconnected resting failure passing unpaused past early inTime =>
    exact recorded.wake r policy begun pausing unconnected failure passing past early inTime
      (unpolled resting) stopped fun rested => woken rested _ pausing
  | rested polling unconnected resting =>
    exact recorded.leave r polling unconnected (unpolled resting) why
  | left outside unconnected reason =>
    have away (inside : l.stage.isInside) : False := ne_true_of_eq_false outside inside
    have steady : l.stage.isPause = false :=
      eq_false_of_ne_true fun pause => away (Stage.isInside_of_isPause pause)
    have other : s.isError = false := eq_false_of_ne_true fun error =>
      away (Stage.isInside_of_polling (r.polling (Stimulus.isPoll_of_isError error)))
    have outside' : l'.stage.isInside = false := eq_false_of_ne_true fun inside =>
      away (r.inside inside)
    rw [noted_calm steady other]
    exact ⟨recorded.kept, recorded.chain,
      .left outside' ((r.connected_of_outside outside').trans unconnected) reason⟩

end

/-! ### Every move -/

structure Sound (c : Campaign) : Prop where
  coherent : c.ensemble.Coherent
  timely : c.ensemble.Timely
  absent : c.ensemble.manager.thread = none → c.attempts = [] ∧ c.poll.isIdle
  recorded : ∀ t l, c.ensemble.manager.thread = some t → c.ensemble.loop? = some l →
    Recorded c.ensemble.manager.policy t.loop.started c.ensemble.now
      (t.heard < c.ensemble.manager.stops) l c.poll c.attempts

theorem Goes.ensemble (h : c.Goes c') :
    Advances c.ensemble c'.ensemble ∨ c'.ensemble = c.ensemble := by
  cases h with
  | pass onward => exact .inl (.pass onward)
  | launch thread fresh idle => exact .inl (.launch thread fresh idle)
  | begin | finish => exact .inr rfl
  | react thread idle asked _ reacted => exact .inl (.react thread idle asked reacted)
  | beside moved => exact .inl moved

/-- A thread that pauses does not sleep past its time. -/
theorem alarms_iff {l : Loop} {wake : Option Instant} {later : Instant}
    (here : c.ensemble.loop? = some l) (pausing : l.stage = .pausing wake)
    (unconnected : l.connected = false) :
    (∀ alarm ∈ c.alarms, later ≤ alarm) ↔ WaitsUntil l.policy l.started wake later := by
  have same : c.alarms = wake.toList ++ (l.policy.deadline? l.started).toList := by
    simp [Campaign.alarms, here, pausing, Loop.deadline?, unconnected]
  simp only [same, List.mem_append, Option.mem_toList, WaitsUntil]
  exact ⟨fun alarms => ⟨fun w shown => alarms w (.inl shown), fun d limit => alarms d (.inr limit)⟩,
    fun waits alarm there => there.elim (waits.1 alarm) (waits.2 alarm)⟩

/-- Where nothing is urgent the time is not up. -/
theorem allows_of_isCalm {l : Loop} (calm : c.isCalm l) (unconnected : l.connected = false) :
    l.policy.Allows l.started c.ensemble.now := by
  refine fun deadline => Loop.not_le_of_isDue (eq_false_of_ne_true fun due => ?_)
  have due : Loop.isDue l.deadline? c.ensemble.now := by
    rw [Loop.deadline?, unconnected]
    exact due
  simp only [isCalm, Loop.urgent?, due] at calm
  split at calm <;> cases calm

theorem isDue_of_rested {l l' : Loop} {now : Instant} {effect : Effect} {wake : Option Instant}
    (h : l.react? now .rested = some (l', effect)) (pausing : l.stage = .pausing wake) :
    Loop.isDue wake now := by
  unfold Loop.react? at h
  rw [pausing] at h
  simp only at h
  split at h
  · assumption
  · cases h

theorem Sound.pass (sound : c.Sound) {later : Instant} (onward : c.ensemble.now ≤ later)
    (alarms : ∀ alarm ∈ c.alarms, later ≤ alarm) {t : NetworkThread} {l : Loop}
    (thread : c.ensemble.manager.thread = some t) (here : c.ensemble.loop? = some l) :
    Recorded c.ensemble.manager.policy t.loop.started later (t.heard < c.ensemble.manager.stops) l
      c.poll c.attempts := by
  obtain ⟨policy, started⟩ := sound.coherent.same_loop thread here
  refine (sound.recorded t l thread here).mono onward id fun unconnected wake pausing => ?_
  rw [← policy, ← started]
  exact (alarms_iff here pausing unconnected).mp alarms

theorem Sound.begin (sound : c.Sound) {t : NetworkThread}
    (thread : c.ensemble.manager.thread = some t) (idle : c.ensemble.underway = none)
    (polling : t.loop.stage = .polling) (calm : c.isCalm t.loop) :
    Recorded c.ensemble.manager.policy t.loop.started c.ensemble.now
      (t.heard < c.ensemble.manager.stops) t.loop .running
      (if t.loop.connected then c.attempts else attempted c.ensemble.now c.attempts) := by
  have here := Ensemble.loop?_of_idle thread idle
  have recorded := sound.recorded t t.loop thread here
  split
  · rename_i connected
    exact ⟨recorded.kept, recorded.chain, .connected connected (recorded.standing.going connected)⟩
  · rename_i unconnected
    have unconnected := eq_false_of_ne_true unconnected
    have early := allows_of_isCalm calm unconnected
    rw [(sound.coherent.same_loop thread here).1] at early
    exact recorded.begin polling unconnected early

theorem Sound.react (sound : c.Sound) {t : NetworkThread} {s : Stimulus} {loop : Loop}
    {effect : Effect} (thread : c.ensemble.manager.thread = some t)
    (idle : c.ensemble.underway = none)
    (asked : s = .shutdown → t.heard < c.ensemble.manager.stops)
    (polled : s.isPoll → c.poll.isGiven)
    (reacted : t.loop.react? c.ensemble.now s = some (loop, effect)) :
    Recorded c.ensemble.manager.policy t.loop.started c.ensemble.now
      (t.heard < c.ensemble.manager.stops) loop .idle
      (noted ⟨c.ensemble.now, t.loop, s, loop⟩ c.attempts) := by
  have here := Ensemble.loop?_of_idle thread idle
  have lived := sound.coherent.lived t thread
  refine (sound.recorded t t.loop thread here).react (Loop.reacts_of_react? lived.calm reacted)
    lived.same.1 rfl polled asked ?_
  rintro rfl wake pausing
  exact isDue_of_rested reacted pausing

theorem Sound.beside (sound : c.Sound) {e : Ensemble} (beside : c.ensemble.Beside e)
    {t : NetworkThread} {l : Loop} (thread : e.manager.thread = some t) (here : e.loop? = some l) :
    Recorded e.manager.policy t.loop.started e.now (t.heard < e.manager.stops) l c.poll
      c.attempts := by
  rw [beside.policy, beside.now]
  rcases beside.thread t thread with ⟨t₀, before, heard, started, same⟩ | ⟨none, fresh⟩
  · have recorded := sound.recorded t₀ l before (same ▸ here)
    rw [heard, started]
    exact recorded.mono (Instant.le_refl _) (fun asked => Nat.lt_of_lt_of_le asked beside.stops)
      fun unconnected wake pausing => recorded.standing.waits unconnected pausing
  · obtain ⟨untried, resting⟩ := sound.absent none
    cases fresh.symm.trans here
    rw [untried]
    exact .fresh rfl rfl resting

theorem Sound.step (sound : c.Sound) (h : c.Goes c') : c'.Sound := by
  have both : c'.ensemble.Coherent ∧ c'.ensemble.Timely := by
    rcases h.ensemble with moved | same
    · exact ⟨sound.coherent.step moved, sound.timely.step sound.coherent moved⟩
    · exact same ▸ ⟨sound.coherent, sound.timely⟩
  refine ⟨both.1, both.2, ?_, ?_⟩
  · intro none
    cases h with
    | pass => exact sound.absent none
    | launch => cases none
    | begin thread | react thread => cases none.symm.trans thread
    | finish polled running =>
      have resting := (sound.absent none).2
      cases (Poll.isRunning_of_isIdle resting).symm.trans running
    | beside moved beside => exact sound.absent (beside.absent none)
  · intro t l thread here
    cases h with
    | pass onward alarms => exact sound.pass onward alarms thread here
    | launch thread' fresh idle untried resting =>
      cases thread
      simp only [Ensemble.loop?, idle] at here
      cases here
      rw [untried]
      exact .fresh rfl rfl resting
    | begin thread' idle polling resting calm =>
      cases thread'.symm.trans thread
      cases (Ensemble.loop?_of_idle thread idle).symm.trans here
      exact sound.begin thread idle polling calm
    | finish polled running => exact (sound.recorded t l thread here).finish running polled
    | react thread' idle asked polled reacted =>
      cases thread'.symm.trans thread
      cases here
      exact sound.react thread idle asked polled reacted
    | beside moved beside => exact sound.beside beside thread here

theorem sound_start {m : Manager} (unused : m.Unused) (now : Instant) : (start m now).Sound where
  coherent := .start unused now
  timely := Ensemble.timely_start unused now
  absent _ := ⟨rfl, rfl⟩
  recorded t _ thread := by cases unused.thread.symm.trans thread

theorem sound_of_run {m : Manager} {now : Instant} (unused : m.Unused)
    (run : (start m now).run? moves = some c) : c.Sound :=
  foldlM_keeps (fun sound h => sound.step (goes_of_step? sound.coherent h))
    (sound_start unused now) run

/-! ## What a thread makes of its time -/

/-- How a thread spends the time that its policy allows. -/
structure Budgeted (c : Campaign) : Prop where
  /-- No attempt is begun once the time is up. -/
  inTime : ∀ t, c.ensemble.manager.thread = some t → ∀ a ∈ c.attempts, ∀ begun ∈ a.polls,
    c.ensemble.manager.policy.Allows t.loop.started begun
  /-- Between two attempts the thread pauses for one interval. -/
  between : c.attempts.IsChain (Follows c.ensemble.manager.policy)
  /-- A pause is cut short only by the deadline or by a request to stop. -/
  pauses : ∀ t, c.ensemble.manager.thread = some t → ∀ a ∈ c.attempts, ∀ ended s,
    a.pause = some (ended, s) → ∃ failed e, a.failure = some (failed, e) ∧ e.isFatal = false ∧
      failed ≤ ended ∧ EndsPause c.ensemble.manager.policy t.loop.started
        (t.heard < c.ensemble.manager.stops) failed ended s
  /-- The thread says that the time is up only when it is, and tells how long it was. -/
  raised : ∀ t, c.ensemble.manager.thread = some t → ∀ d effect budget,
    c.ensemble.underway = some (d, effect) → effect = .signal (.fail (.connectTimeout budget)) →
      d.now ≤ c.ensemble.now ∧
      c.ensemble.manager.policy.IsSpent t.loop.started d.now budget
  /-- So does the call to connect, and it counts from its own start. -/
  returned : ∀ budget, c.ensemble.opener = .returned (.error (.connectTimeout budget)) →
    c.ensemble.manager.policy.IsSpent c.ensemble.opened c.ensemble.now budget
  /-- Where the clock cannot show the end of its time, no call fails for want of it, -/
  patient : c.ensemble.manager.policy.deadline? c.ensemble.opened = none →
    (∀ budget, c.ensemble.opener ≠ .returned (.error (.connectTimeout budget))) ∧
    ∀ t, c.ensemble.manager.thread = some t →
      c.ensemble.manager.policy.deadline? t.loop.started = none
  /-- and no thread says that the time is up. -/
  silent : ∀ t, c.ensemble.manager.thread = some t →
    c.ensemble.manager.policy.deadline? t.loop.started = none → ∀ d effect budget,
      c.ensemble.underway = some (d, effect) → effect ≠ .signal (.fail (.connectTimeout budget))
  /-- Such a thread goes on after each failure that may pass, unless it is asked to stop. -/
  persistent : ∀ t l, c.ensemble.manager.thread = some t → c.ensemble.loop? = some l →
    c.ensemble.manager.policy.deadline? t.loop.started = none →
    ¬ t.heard < c.ensemble.manager.stops → ∀ a earlier failed e, c.attempts = a :: earlier →
      a.failure = some (failed, e) → e.isFatal = false →
        l.stage = .pausing (failed.after? c.ensemble.manager.policy.interval) ∨
        l.stage = .polling ∧ c.poll.isIdle ∧ ∃ ended, a.pause = some (ended, .rested)
  /-- Where it does not poll and nothing is urgent, it begins to. -/
  begins : ∀ t, c.ensemble.manager.thread = some t → c.ensemble.underway = none →
    t.loop.stage = .polling → c.poll.isIdle → ¬ t.heard < c.ensemble.manager.stops →
    c.ensemble.manager.policy.Allows t.loop.started c.ensemble.now → (c.step? .begin).isSome
  /-- Just at the end of its pause it begins the next attempt, if nothing is urgent then. -/
  resumes : ∀ t wake, c.ensemble.manager.thread = some t → c.ensemble.underway = none →
    t.loop.stage = .pausing (some wake) → ¬ t.heard < c.ensemble.manager.stops →
    c.ensemble.manager.policy.Allows t.loop.started wake →
    ∃ c' a earlier,
      c.run? [.pass wake, .react .rested, .beside .carryOut, .begin] = some c' ∧
      c.attempts = a :: earlier ∧
      c'.attempts = ⟨[wake], none, none⟩ :: { a with pause := some (wake, .rested) } :: earlier

theorem Sound.raised (sound : c.Sound) {t : NetworkThread} {d : Loop.Deed} {effect : Effect}
    {budget : Span} (thread : c.ensemble.manager.thread = some t)
    (underway : c.ensemble.underway = some (d, effect))
    (timeout : effect = .signal (.fail (.connectTimeout budget))) :
    d.now ≤ c.ensemble.now ∧ c.ensemble.manager.policy.IsSpent t.loop.started d.now budget := by
  obtain ⟨-, reacted⟩ := sound.coherent.underway d effect underway t thread
  have lived := sound.coherent.lived t thread
  have spent := (Loop.reacts_of_react? lived.calm reacted).isSpent timeout
  rw [lived.same.1] at spent
  exact ⟨sound.timely.underway d effect underway, spent⟩

theorem Sound.returned (sound : c.Sound) {budget : Span}
    (returned : c.ensemble.opener = .returned (.error (.connectTimeout budget))) :
    c.ensemble.manager.policy.IsSpent c.ensemble.opened c.ensemble.now budget := by
  have call := sound.timely.call
  rw [returned] at call
  exact call budget rfl

theorem Sound.persistent (sound : c.Sound) {t : NetworkThread} {l : Loop}
    (thread : c.ensemble.manager.thread = some t) (here : c.ensemble.loop? = some l)
    (unlimited : c.ensemble.manager.policy.deadline? t.loop.started = none)
    (unasked : ¬ t.heard < c.ensemble.manager.stops) {a : Attempt} {earlier : List Attempt}
    {failed : Instant} {e : TransportError} (latest : c.attempts = a :: earlier)
    (failure : a.failure = some (failed, e)) (passing : e.isFatal = false) :
    l.stage = .pausing (failed.after? c.ensemble.manager.policy.interval) ∨
      l.stage = .polling ∧ c.poll.isIdle ∧ ∃ ended, a.pause = some (ended, .rested) := by
  have standing := (sound.recorded t l thread here).standing
  rw [latest] at standing
  cases standing with
  | connected _ going => cases failure.symm.trans (going a earlier rfl)
  | trying _ _ going => cases failure.symm.trans going
  | pausing pausing _ _ failure' =>
    cases failure.symm.trans failure'
    exact .inl pausing
  | rested polling _ resting _ _ pause => exact .inr ⟨polling, resting, _, pause⟩
  | left _ _ why =>
    rcases why a earlier failed e rfl failure passing with asked | due
    · exact absurd asked unasked
    · rw [unlimited] at due
      cases due

theorem Sound.unlimited (sound : c.Sound)
    (unlimited : c.ensemble.manager.policy.deadline? c.ensemble.opened = none) {t : NetworkThread}
    (thread : c.ensemble.manager.thread = some t) :
    c.ensemble.manager.policy.deadline? t.loop.started = none := by
  cases limit : c.ensemble.manager.policy.deadline? t.loop.started with
  | none => rfl
  | some deadline =>
    obtain ⟨own, shown, -⟩ := RetryPolicy.deadline?_mono (sound.timely.started t thread) limit
    cases unlimited.symm.trans shown

theorem step?_pass {later : Instant} (onward : c.ensemble.now ≤ later)
    (alarms : ∀ alarm ∈ c.alarms, later ≤ alarm) :
    c.step? (.pass later) = some { c with ensemble.now := later } := by
  simp only [step?, along, Ensemble.step?, if_pos onward]
  rw [if_pos (by simpa using alarms)]
  rfl

theorem step?_rested {t : NetworkThread} {wake : Instant}
    (thread : c.ensemble.manager.thread = some t) (idle : c.ensemble.underway = none)
    (pausing : t.loop.stage = .pausing (some wake)) (due : wake ≤ c.ensemble.now)
    (calm : c.isCalm t.loop) :
    let loop : Loop := { t.loop with stage := .polling }
    let d : Loop.Deed := ⟨c.ensemble.now, t.loop, .rested, loop⟩
    c.step? (.react .rested) = some
      { ensemble := { c.ensemble with underway := some (d, .none) }
        poll := .idle
        attempts := noted d c.attempts } := by
  have here := Ensemble.loop?_of_idle thread idle
  have reacted : t.loop.react? c.ensemble.now .rested =
      some ({ t.loop with stage := .polling }, .none) := by
    simp [Loop.react?, pausing, Loop.isDue, due]
  simp [step?, permits, here, calm, reacts?, Ensemble.step?, thread, idle, Ensemble.isUnasked,
    reacted]

theorem step?_carryOut {t : NetworkThread} {d : Loop.Deed}
    (thread : c.ensemble.manager.thread = some t)
    (underway : c.ensemble.underway = some (d, .none)) :
    c.step? (.beside .carryOut) = some { c with
      ensemble.manager.thread := some { t with loop := d.after }
      ensemble.underway := none
      ensemble.deeds := c.ensemble.deeds ++ [d] } := by
  simp [step?, along, Ensemble.step?, thread, underway, Effect.on]

theorem step?_begin {t : NetworkThread} (thread : c.ensemble.manager.thread = some t)
    (idle : c.ensemble.underway = none) (polling : t.loop.stage = .polling)
    (resting : c.poll.isIdle) (calm : c.isCalm t.loop) :
    c.step? .begin = some { c with
      poll := .running
      attempts :=
        if t.loop.connected then c.attempts else attempted c.ensemble.now c.attempts } := by
  have here := Ensemble.loop?_of_idle thread idle
  simp [step?, here, idle, polling, resting, calm]

theorem isCalm_of_early {t : NetworkThread} {l : Loop} (thread : c.ensemble.manager.thread = some t)
    (unasked : ¬ t.heard < c.ensemble.manager.stops)
    (early : l.policy.Allows l.started c.ensemble.now) : c.isCalm l := by
  have running : c.ensemble.isStopping = false := by simp [Ensemble.isStopping, thread, unasked]
  have undue : Loop.isDue l.deadline? c.ensemble.now = false :=
    eq_false_of_ne_true fun due => by
      obtain ⟨deadline, limit, past⟩ := Loop.isDue_iff.mp (Loop.isDue_deadline? due).2
      exact early deadline limit past
  simp [isCalm, Loop.urgent?, running, undue]

/-- What a campaign is once the pause of its thread has ended in time. -/
def afterRest (c : Campaign) (t : NetworkThread) (wake : Instant) : Campaign :=
  let loop : Loop := { t.loop with stage := .polling }
  let d : Loop.Deed := ⟨wake, t.loop, .rested, loop⟩
  { ensemble := { c.ensemble with
      manager.thread := some { t with loop }
      now := wake
      underway := none
      deeds := c.ensemble.deeds ++ [d] }
    poll := .idle
    attempts := noted d c.attempts }

/-- A pause ends just in time, and nothing comes in between, if nothing is urgent then. -/
theorem run?_afterRest {t : NetworkThread} {wake : Instant}
    (thread : c.ensemble.manager.thread = some t) (idle : c.ensemble.underway = none)
    (pausing : t.loop.stage = .pausing (some wake)) (unconnected : t.loop.connected = false)
    (onward : c.ensemble.now ≤ wake) (unasked : ¬ t.heard < c.ensemble.manager.stops)
    (early : t.loop.policy.Allows t.loop.started wake) :
    c.run? [.pass wake, .react .rested, .beside .carryOut] = some (c.afterRest t wake) := by
  have here := Ensemble.loop?_of_idle thread idle
  have alarms : ∀ alarm ∈ c.alarms, wake ≤ alarm := by
    refine (alarms_iff here pausing unconnected).mpr ⟨fun w same => ?_, fun deadline limit => ?_⟩
    · cases same
      exact Instant.le_refl _
    · exact Instant.le_of_not_le (early deadline limit)
  let d : Loop.Deed := ⟨wake, t.loop, .rested, { t.loop with stage := .polling }⟩
  let c₁ : Campaign := { c with ensemble.now := wake }
  let c₂ : Campaign :=
    ⟨{ c₁.ensemble with underway := some (d, .none) }, .idle, noted d c.attempts⟩
  have passed : c.step? (.pass wake) = some c₁ := step?_pass onward alarms
  have rested : c₁.step? (.react .rested) = some c₂ :=
    step?_rested thread idle pausing (Instant.le_refl _) (isCalm_of_early thread unasked early)
  have done : c₂.step? (.beside .carryOut) = some (c.afterRest t wake) :=
    step?_carryOut (c := c₂) thread rfl
  simp only [run?, List.foldlM_cons, passed, rested, done, Option.bind_eq_bind, Option.bind_some]
  rfl

theorem Sound.resumes (sound : c.Sound) {t : NetworkThread} {wake : Instant}
    (thread : c.ensemble.manager.thread = some t) (idle : c.ensemble.underway = none)
    (pausing : t.loop.stage = .pausing (some wake))
    (unasked : ¬ t.heard < c.ensemble.manager.stops)
    (early : c.ensemble.manager.policy.Allows t.loop.started wake) : ∃ c' a earlier,
      c.run? [.pass wake, .react .rested, .beside .carryOut, .begin] = some c' ∧
      c.attempts = a :: earlier ∧ c'.attempts =
        ⟨[wake], none, none⟩ :: { a with pause := some (wake, .rested) } :: earlier := by
  have lived := sound.coherent.lived t thread
  have unconnected := lived.calm (by rw [pausing]; rfl)
  have standing := (sound.recorded t t.loop thread (Ensemble.loop?_of_idle thread idle)).standing
  obtain ⟨a, earlier, failure, latest, failed⟩ := standing.latest unconnected pausing
  have onward := (standing.waits unconnected pausing).1 wake rfl
  rw [← lived.same.1] at early
  let d : Loop.Deed := ⟨wake, t.loop, .rested, { t.loop with stage := .polling }⟩
  let c₁ : Campaign := c.afterRest t wake
  let c₂ : Campaign :=
    { c₁ with
      poll := .running
      attempts := if t.loop.connected then c₁.attempts else attempted wake c₁.attempts }
  have rested : c.run? [.pass wake, .react .rested, .beside .carryOut] = some c₁ :=
    run?_afterRest thread idle pausing unconnected onward unasked early
  have begun : c₁.step? .begin = some c₂ :=
    step?_begin (c := c₁) (t := { t with loop := d.after }) rfl rfl rfl rfl
      (isCalm_of_early rfl unasked early)
  refine ⟨c₂, a, earlier, ?_, latest, ?_⟩
  · refine (foldlM_append_of_eq_some rested).trans ?_
    rw [List.foldlM_cons, begun]
    rfl
  · have attempts : c₂.attempts = attempted wake (noted d c.attempts) :=
      if_neg (ne_true_of_eq_false unconnected)
    rw [attempts, latest, noted_pause pausing unconnected, attempted, if_neg (by simp [failed])]

theorem budgeted_of_run {m : Manager} {now : Instant} (unused : m.Unused)
    (run : (start m now).run? moves = some c) : c.Budgeted := by
  have sound := sound_of_run unused run
  have recorded {t : NetworkThread} (thread : c.ensemble.manager.thread = some t) :
      ∃ l, Recorded c.ensemble.manager.policy t.loop.started c.ensemble.now
        (t.heard < c.ensemble.manager.stops) l c.poll c.attempts := by
    obtain ⟨l, here⟩ := Ensemble.exists_loop thread
    exact ⟨l, sound.recorded t l thread here⟩
  constructor
  · intro t thread a there
    obtain ⟨l, recorded⟩ := recorded thread
    exact (recorded.kept a there).inTime
  · cases thread : c.ensemble.manager.thread with
    | none =>
      rw [(sound.absent thread).1]
      exact .nil
    | some t =>
      obtain ⟨l, recorded⟩ := recorded thread
      exact recorded.chain
  · intro t thread a there ended s pause
    obtain ⟨l, recorded⟩ := recorded thread
    exact ((recorded.kept a there).pause ended s pause).2
  · intro t thread d effect budget underway timeout
    exact sound.raised thread underway timeout
  · exact fun budget returned => sound.returned returned
  · refine fun unlimited => ⟨fun budget returned => ?_, fun t => sound.unlimited unlimited⟩
    obtain ⟨-, deadline, limit, -⟩ := sound.returned returned
    cases unlimited.symm.trans limit
  · intro t thread unlimited d effect budget underway timeout
    obtain ⟨-, -, deadline, limit, -⟩ := sound.raised thread underway timeout
    cases unlimited.symm.trans limit
  · intro t l thread here unlimited unasked a earlier failed e
    exact sound.persistent thread here unlimited unasked
  · intro t thread idle polling resting unasked early
    rw [← (sound.coherent.lived t thread).same.1] at early
    rw [step?_begin thread idle polling resting (isCalm_of_early thread unasked early)]
    rfl
  · exact fun t wake => sound.resumes

/-- A second for all attempts, and two fifths of one between two. -/
def impatient : RetryPolicy := ⟨Span.ofMillis 400, some (Span.ofSecs 1)⟩

/-- The first attempt fails after a tenth of a second, and so does the second, half a second after
the start. The pause after that would end just when the time is up, which comes first. -/
def twoAttempts : List Move :=
  let connect (n : Nat) : List Move := List.replicate n (.beside (.connect (.ok ())))
  let time (millis : UInt64) : List Move :=
    ((Instant.origin.after? (Span.ofMillis millis)).map .pass).toList
  let attempt (millis : UInt64) : List Move :=
    [.begin] ++ time millis ++ [.finish (.error (.io "refused")), .heed, .beside .carryOut]
  connect 6 ++ [.launch] ++ attempt 100 ++ time 500 ++ [.react .rested, .beside .carryOut] ++
    attempt 600 ++ time 1000 ++ [.react .deadline, .beside .carryOut] ++ connect 4 ++
    [.react .proceed, .beside .carryOut] ++ connect 2

theorem budgeted_of_twoAttempts :
    ∃ c, (start (Ensemble.newManager impatient) .origin).run? twoAttempts = some c ∧ c.Budgeted ∧
      c.ensemble.opener = .returned (.error (.connectTimeout (Span.ofSecs 1))) ∧
      c.ensemble.now.toNanos = 1000000000 ∧
      c.attempts.map (fun a => (a.polls.map (·.toNanos), a.pause.map (·.1.toNanos))) =
        [([500000000], some 1000000000), ([0], some 500000000)] :=
  ⟨_, rfl, @budgeted_of_run _ twoAttempts _ .origin (Ensemble.newManager_unused impatient) rfl,
    rfl, rfl, rfl⟩

end Campaign

end Courier
