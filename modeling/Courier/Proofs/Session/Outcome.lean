import Courier.Proofs.Session.Reaction

/-!
# The outcome of connecting

Why a thread without a session leaves its loop, and what it lets the waiting call know: success as
soon as the broker has established the session, else the reason for which the thread left. The
failure that every such thread reports last is for those that left for no other reason.
-/

namespace Courier

namespace Signal

@[simp]
theorem fail_state (s : Signal) (fault : Fault) : (s.fail fault).state = .disconnected := by
  unfold fail
  cases s.outcome <;> rfl

/-- A failure is reported only as long as the outcome is open. -/
theorem fail_outcome (s : Signal) (fault : Fault) :
    (s.fail fault).outcome = if s.outcome = .pending then .failed fault else s.outcome := by
  unfold fail
  cases outcome : s.outcome <;> simp [wakeAll]

theorem answered_outcome (s : Signal) :
    (s.answered true).outcome = if s.outcome = .pending then .established else s.outcome := by
  unfold answered
  cases outcome : s.outcome <;> simp [wakeAll]

/-- Whether an event is a call that waits for the outcome. -/
def Event.isWait : Event → Bool
  | .arrive _ | .resume _ | .stir _ | .expire _ => true
  | _ => false

def sleepers (s : Signal) : List OutcomeWaiter := s.asleep ++ s.woken

/-- What comes of a call that waits when it has its turn. -/
inductive Turn (s : Signal) (now : Instant) (w : OutcomeWaiter) : Signal → List Answer → Prop where
  | sleep {s' : Signal} (pending : s.outcome = .pending) (outcome : s'.outcome = .pending)
      (state : s'.state = s.state)
      (others : ∀ other ∈ s'.sleepers, other = w ∨ other ∈ s.sleepers) : Turn s now w s' []
  | success {s' : Signal} (established : s.outcome = .established)
      (outcome : s'.outcome = .established) (state : s'.state = s.state) :
      Turn s now w s' [⟨w.id, .ok ()⟩]
  | failure {s' : Signal} {fault : Fault} (failed : s.outcome = .failed fault)
      (state : s'.state = s.state) : Turn s now w s' [⟨w.id, .error fault⟩]
  | expiry {s' : Signal} {deadline : Instant} (pending : s.outcome = .pending)
      (outcome : s'.outcome = .pending) (state : s'.state = s.state)
      (limit : w.deadline = some deadline) (late : deadline ≤ now) :
      Turn s now w s' [⟨w.id, .error w.policy.timeoutFault⟩]

variable {s s' t : Signal} {now : Instant} {e : Event} {answers : List Answer}

/-- A call that takes the outcome, having left the place where it slept. -/
theorem turn_arrive (w : OutcomeWaiter) (outcome : t.outcome = s.outcome)
    (state : t.state = s.state) (others : ∀ other ∈ t.sleepers, other ∈ s.sleepers) :
    Turn s now w (t.arrive w).1 (t.arrive w).2 := by
  unfold arrive
  cases found : t.outcome with
  | pending =>
    refine .sleep (outcome ▸ found) rfl state fun other there => ?_
    simp only [sleepers, List.mem_append, List.mem_singleton] at there others ⊢
    rcases there with (there | rfl) | there
    · exact .inr (others other (.inl there))
    · exact .inl rfl
    · exact .inr (others other (.inr there))
  | established => exact .success (outcome ▸ found) found state
  | failed fault => exact .failure (outcome ▸ found) state

theorem turn_giveUp {w : OutcomeWaiter} {deadline : Instant} (outcome : t.outcome = s.outcome)
    (state : t.state = s.state) (others : ∀ other ∈ t.sleepers, other ∈ s.sleepers)
    (limit : w.deadline = some deadline) (late : deadline ≤ now) :
    Turn s now w (t.giveUp w).1 (t.giveUp w).2 := by
  unfold giveUp
  split
  · rename_i pending
    exact .expiry (outcome ▸ pending) pending state limit late
  · exact turn_arrive w outcome state others

theorem sleepers_erase_asleep (s : Signal) (w : OutcomeWaiter) :
    ∀ other ∈ { s with asleep := s.asleep.erase w }.sleepers, other ∈ s.sleepers := by
  intro other there
  simp only [sleepers, List.mem_append] at there ⊢
  exact there.imp_left List.mem_of_mem_erase

theorem sleepers_erase_woken (s : Signal) (w : OutcomeWaiter) :
    ∀ other ∈ { s with woken := s.woken.erase w }.sleepers, other ∈ s.sleepers := by
  intro other there
  simp only [sleepers, List.mem_append] at there ⊢
  exact there.imp_right List.mem_of_mem_erase

theorem turn_of_step? (wait : e.isWait) (h : s.step? now e = some (s', answers)) :
    ∃ w, (e = .arrive w ∨ w ∈ s.sleepers) ∧ Turn s now w s' answers := by
  cases e with
  | arrive w =>
    obtain ⟨rfl, rfl⟩ := Prod.mk.inj (Option.some.inj h)
    exact ⟨w, .inl rfl, turn_arrive w rfl rfl fun _ there => there⟩
  | resume id =>
    obtain ⟨w, found, taken⟩ := Option.bind_eq_some_iff.mp h
    obtain ⟨rfl, rfl⟩ := Prod.mk.inj (Option.some.inj taken)
    exact ⟨w, .inr (List.mem_append_right _ (List.mem_of_find?_eq_some found)),
      turn_arrive w rfl rfl (sleepers_erase_woken s w)⟩
  | stir id =>
    obtain ⟨w, found, taken⟩ := Option.bind_eq_some_iff.mp h
    obtain ⟨rfl, rfl⟩ := Prod.mk.inj (Option.some.inj taken)
    exact ⟨w, .inr (List.mem_append_left _ (List.mem_of_find?_eq_some found)),
      turn_arrive w rfl rfl (sleepers_erase_asleep s w)⟩
  | expire id =>
    obtain ⟨w, found, waited⟩ := Option.bind_eq_some_iff.mp h
    obtain ⟨deadline, limit, taken⟩ := Option.bind_eq_some_iff.mp waited
    split at taken
    · rename_i late
      obtain ⟨rfl, rfl⟩ := Prod.mk.inj (Option.some.inj taken)
      exact ⟨w, .inr (List.mem_append_left _ (List.mem_of_find?_eq_some found)),
        turn_giveUp rfl rfl (sleepers_erase_asleep s w) limit late⟩
    · cases taken
  | _ => cases wait

theorem mem_sleepers_wakeAll {w : OutcomeWaiter} : w ∈ s.wakeAll.sleepers ↔ w ∈ s.sleepers := by
  simp [wakeAll, sleepers, or_comm]

theorem mem_sleepers_fail {w : OutcomeWaiter} {fault : Fault} :
    w ∈ (s.fail fault).sleepers ↔ w ∈ s.sleepers := by
  unfold fail
  cases s.outcome with
  | pending => exact mem_sleepers_wakeAll
  | _ => rfl

end Signal

/-- The failure to report when a thread without a session has to give up, within its time or not. -/
def Stimulus.reason? (policy : RetryPolicy) (due : Bool) : Stimulus → Option Fault
  | .deadline => if due then some policy.timeoutFault else none
  | .polled (.error e) =>
    if e.isFatal then some (.connectFailed e.text)
    else if due then some policy.timeoutFault
    else none
  | .shutdown | .polled (.ok (.incoming (.disconnect _))) => some Loop.stopFault
  | _ => none

theorem Stimulus.reason?_farewell {s : Stimulus} (farewell : s.isFarewell) (policy : RetryPolicy)
    (due : Bool) : s.reason? policy due = some Loop.stopFault := by
  unfold isFarewell at farewell
  split at farewell
  · rfl
  · cases farewell

theorem Stimulus.reason?_other {e : Event}
    (other : (Stimulus.polled (.ok e)).isFarewell = false) (policy : RetryPolicy) (due : Bool) :
    (Stimulus.polled (.ok e)).reason? policy due = none := by
  cases e with
  | outgoing => rfl
  | incoming p =>
    cases p with
    | disconnect reason => cases other
    | _ => rfl

/-- There are three kinds of reasons. -/
theorem Stimulus.reason?_eq_some {s : Stimulus} {policy : RetryPolicy} {due : Bool} {fault : Fault}
    (h : s.reason? policy due = some fault) :
    due ∧ fault = policy.timeoutFault ∨
      (∃ e, s = .polled (.error e) ∧ e.isFatal ∧ fault = .connectFailed e.text) ∨
      (s = .shutdown ∨ s.isFarewell) ∧ fault = Loop.stopFault := by
  unfold reason? at h
  split at h
  · split at h
    · rename_i due
      exact .inl ⟨due, (Option.some.inj h).symm⟩
    · cases h
  · rename_i e
    split at h
    · rename_i fatal
      exact .inr (.inl ⟨e, rfl, fatal, (Option.some.inj h).symm⟩)
    · split at h
      · rename_i due
        exact .inl ⟨due, (Option.some.inj h).symm⟩
      · cases h
  · exact .inr (.inr ⟨.inl rfl, (Option.some.inj h).symm⟩)
  · exact .inr (.inr ⟨.inr rfl, (Option.some.inj h).symm⟩)
  · cases h

namespace Loop

variable {l l' : Loop} {deeds : List Deed} {policy : RetryPolicy} {started now later : Instant}
  {s : Stimulus} {effect : Effect} {signal : Signal}

def Deed.reason? (policy : RetryPolicy) (started : Instant) (d : Deed) : Option Fault :=
  d.stimulus.reason? policy (isDue (policy.deadline? started) d.now)

/-- The first reason to give up. -/
def firstReason? (policy : RetryPolicy) (started : Instant) (deeds : List Deed) : Option Fault :=
  deeds.findSome? (·.reason? policy started)

theorem firstReason?_append (policy : RetryPolicy) (started : Instant) (deeds : List Deed)
    (d : Deed) : firstReason? policy started (deeds ++ [d]) =
      (firstReason? policy started deeds).or (d.reason? policy started) := by
  rw [firstReason?, List.findSome?_append, List.findSome?_singleton]
  rfl

/-- What a call finds that waits for the outcome, as long as no other has taken it. -/
structure Settled (policy : RetryPolicy) (started : Instant) (l : Loop) (deeds : List Deed)
    (o : ConnectOutcome) : Prop where
  waiting : l.stage.isInside → l.connected = false →
    o = .pending ∧ firstReason? policy started deeds = none
  established : l.connected → o = .established
  failed : l.stage.isInside = false → l.connected = false →
    ∃ fault, firstReason? policy started deeds = some fault ∧
      (o = .failed fault ∨ l.stage = .leaving ∧ o = .pending ∧ fault = stopFault)

namespace Settled

variable {d : Deed} {o : ConnectOutcome} {fault : Fault}

theorem begun : Settled policy started (fresh policy started) [] .pending :=
  ⟨fun _ _ => ⟨rfl, rfl⟩, fun connected => Bool.noConfusion connected,
    fun outside => Bool.noConfusion outside⟩

theorem of_connected (connected : l.connected) (established : o = .established) :
    Settled policy started l deeds o :=
  ⟨fun _ unconnected => absurd connected (ne_true_of_eq_false unconnected), fun _ => established,
    fun _ unconnected => absurd connected (ne_true_of_eq_false unconnected)⟩

theorem goesOn (settled : Settled policy started l deeds o) (inside : l.stage.isInside)
    (unconnected : l.connected = false) (reason : d.reason? policy started = none)
    (inside' : l'.stage.isInside) (unconnected' : l'.connected = false) :
    Settled policy started l' (deeds ++ [d]) o := by
  obtain ⟨pending, none⟩ := settled.waiting inside unconnected
  refine ⟨fun _ _ => ⟨pending, ?_⟩, fun connected => ?_, fun outside => ?_⟩
  · rw [firstReason?_append, none, reason, Option.none_or]
  · exact absurd connected (ne_true_of_eq_false unconnected')
  · exact absurd inside' (ne_true_of_eq_false outside)

theorem givesUp {o' : ConnectOutcome} (settled : Settled policy started l deeds o)
    (inside : l.stage.isInside) (unconnected : l.connected = false)
    (reason : d.reason? policy started = some fault) (outside : l'.stage.isInside = false)
    (unconnected' : l'.connected = false)
    (told : o' = .failed fault ∨ l'.stage = .leaving ∧ o' = .pending ∧ fault = stopFault) :
    Settled policy started l' (deeds ++ [d]) o' := by
  obtain ⟨-, none⟩ := settled.waiting inside unconnected
  refine ⟨fun inside => ?_, fun connected => ?_, fun _ _ => ⟨fault, ?_, told⟩⟩
  · exact absurd inside (ne_true_of_eq_false outside)
  · exact absurd connected (ne_true_of_eq_false unconnected')
  · rw [firstReason?_append, none, reason, Option.none_or]

/-- The reason that a thread reports from within its loop is what the calls find. -/
theorem reports (settled : Settled policy started l deeds signal.outcome)
    (inside : l.stage.isInside) (unconnected : l.connected = false)
    (reason : d.reason? policy started = some fault) (outside : l'.stage.isInside = false)
    (unconnected' : l'.connected = false) :
    Settled policy started l' (deeds ++ [d]) (signal.fail fault).outcome := by
  obtain ⟨pending, -⟩ := settled.waiting inside unconnected
  refine settled.givesUp inside unconnected reason outside unconnected' (.inl ?_)
  rw [Signal.fail_outcome, if_pos pending]

theorem staysOut {o' : ConnectOutcome} (settled : Settled policy started l deeds o)
    (outside : l.stage.isInside = false) (unconnected : l.connected = false)
    (outside' : l'.stage.isInside = false) (unconnected' : l'.connected = false)
    (told : ∀ fault, (o = .failed fault ∨ l.stage = .leaving ∧ o = .pending ∧ fault = stopFault) →
      o' = .failed fault) :
    Settled policy started l' (deeds ++ [d]) o' := by
  obtain ⟨fault, first, failed⟩ := settled.failed outside unconnected
  refine ⟨fun inside => ?_, fun connected => ?_, fun _ _ => ⟨fault, ?_, .inl (told fault failed)⟩⟩
  · exact absurd inside (ne_true_of_eq_false outside')
  · exact absurd connected (ne_true_of_eq_false unconnected')
  · rw [firstReason?_append, first, Option.some_or]

end Settled

theorem Reacts.establishes (r : Reacts l now s l' effect) (success : s.isSuccess) :
    l.stage = .polling ∧ effect = .signal (.answered true) := by
  cases r with
  | establish polling => exact ⟨polling, rfl⟩
  | observe _ other => rw [other.1] at success; cases success
  | part _ farewell =>
    rw [Stimulus.isSuccess_of_isFarewell farewell] at success
    cases success
  | lose _ _ error =>
    rw [Stimulus.isSuccess_of_isError error] at success
    cases success
  | _ => cases success

theorem Reacts.keeps_established (r : Reacts l now s l' effect)
    (established : signal.outcome = .established) :
    (effect.on later signal).outcome = .established := by
  cases r with
  | observe _ _ quiet => rw [Effect.on_quiet quiet, established]
  | establish =>
    simp [Signal.answered_outcome, established]
  | expire | refuse | spend | settle =>
    simp [Signal.fail_outcome, established]
  | _ => exact established

/-- A thread wakes calls up, and lets no call wait that did not. -/
theorem Reacts.sleepers (r : Reacts l now s l' effect) {w : OutcomeWaiter}
    (there : w ∈ (effect.on later signal).sleepers) : w ∈ signal.sleepers := by
  cases r with
  | observe _ _ quiet => exact Effect.on_quiet quiet later signal ▸ there
  | establish => exact Signal.mem_sleepers_wakeAll.mp there
  | expire | refuse | spend | settle => exact Signal.mem_sleepers_fail.mp there
  | _ => exact there

/-- What one reaction does to the outcome and to the reason that there is for it. -/
theorem Settled.react (settled : Settled policy started l deeds signal.outcome)
    (lived : Lived (fresh policy started) l deeds) (r : Reacts l now s l' effect) :
    Settled policy started l' (deeds ++ [⟨now, l, s, l'⟩]) (effect.on later signal).outcome := by
  obtain ⟨rfl, rfl⟩ := lived.same
  by_cases connected : l'.connected
  · refine .of_connected connected ?_
    by_cases already : l.connected
    · exact r.keeps_established (settled.established already)
    · have success := (r.connected_iff.mp connected).resolve_left already
      obtain ⟨polling, rfl⟩ := r.establishes success
      have inside := Stage.isInside_of_polling polling
      have pending := (settled.waiting inside (eq_false_of_ne_true already)).1
      rw [Effect.on_success, Signal.answered_outcome, if_pos pending]
  · have unconnected' := eq_false_of_ne_true connected
    have unconnected : l.connected = false :=
      eq_false_of_ne_true fun already => connected (r.connected_iff.mpr (.inl already))
    cases r with
    | stop inside =>
      obtain ⟨pending, -⟩ := settled.waiting inside unconnected
      exact settled.givesUp inside unconnected rfl rfl unconnected (.inr ⟨rfl, pending, rfl⟩)
    | drain _ already | lose _ already | finish _ already =>
      exact absurd already (ne_true_of_eq_false unconnected)
    | expire inside _ due => exact settled.reports inside unconnected (if_pos due) rfl unconnected
    | establish => exact absurd rfl connected
    | observe polling other quiet =>
      rw [Effect.on_quiet quiet]
      have inside := Stage.isInside_of_polling polling
      exact settled.goesOn inside unconnected (Stimulus.reason?_other other.2 ..) inside unconnected
    | part polling farewell =>
      have inside := Stage.isInside_of_polling polling
      obtain ⟨pending, -⟩ := settled.waiting inside unconnected
      have reason := Stimulus.reason?_farewell farewell l.policy
      exact settled.givesUp inside unconnected (reason _) rfl unconnected (.inr ⟨rfl, pending, rfl⟩)
    | refuse polling _ fatal =>
      have inside := Stage.isInside_of_polling polling
      exact settled.reports inside unconnected (if_pos fatal) rfl unconnected
    | @spend e polling _ passing due =>
      have inside := Stage.isInside_of_polling polling
      have reason : (Stimulus.polled (.error e)).reason? l.policy
          (isDue (l.policy.deadline? l.started) now) = some l.policy.timeoutFault := by
        simp only [Stimulus.reason?, passing, due]
        rfl
      exact settled.reports inside unconnected reason rfl unconnected
    | pause polling _ passing early =>
      have inside := Stage.isInside_of_polling polling
      refine settled.goesOn inside unconnected ?_ rfl unconnected
      simp [Deed.reason?, Stimulus.reason?, passing, early]
    | retry pausing =>
      exact settled.goesOn (Stage.isInside_of_isPause pausing) unconnected rfl rfl unconnected
    | drained draining =>
      have outside : l.stage.isInside = false := by rw [draining]; rfl
      refine settled.staysOut outside unconnected rfl unconnected fun fault told => ?_
      exact told.resolve_right fun ⟨leaving, _⟩ => by simp [draining] at leaving
    | settle leaving =>
      have outside : l.stage.isInside = false := by rw [leaving]; rfl
      refine settled.staysOut outside unconnected rfl unconnected fun fault told => ?_
      -- The last failure counts only where none has been reported yet.
      rw [Effect.on_fail, Signal.fail_outcome]
      rcases told with failed | ⟨-, pending, rfl⟩
      · rw [if_neg (by simp [failed]), failed]
      · rw [if_pos pending]

end Loop

end Courier
