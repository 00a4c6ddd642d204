import Courier.Proofs.Session.Ensemble

/-!
# What calls to disconnect achieve

Any number of calls to disconnect beside the call to connect and the network thread. The thread is
waited for by whoever takes it away from where the call to connect has left it. A call to disconnect
that comes after that stops the session for good; one that comes before may be lost.
-/

namespace Courier

namespace Manager

namespace Call

/-- Whether a call has left the thread where it can be waited for, if it ever does. -/
def isKept : Call → Bool
  | .connect | .announce .. | .listen .. | .spawn .. | .keep _ => false
  | _ => true

/-- Whether a call has not yet tried to take the thread away. -/
def isUnclaimed : Call → Bool
  | .disconnect | .bye | .stop _ | .claim _ => true
  | _ => false

/-- Whether a call to connect has not left the thread there, or has taken it away again. -/
def isWithheld : Call → Bool
  | .connect | .announce .. | .listen .. | .spawn .. | .keep _ => true
  | .join _ | .reset _ | .returned (.error _) => true
  | _ => false

theorem isKept_of_isClosing {c : Call} (closing : c.isClosing) : c.isKept := by
  cases c with
  | connect | announce | listen | spawn | keep => cases closing
  | _ => rfl

theorem isKept_of_isOver {c : Call} (finished : c.isOver) : c.isKept := by
  cases c with
  | returned => rfl
  | _ => cases finished

theorem isEarly_of_isKept {c : Call} (kept : c.isKept) : c.isEarly = false := by
  cases c with
  | connect | announce | listen | spawn => cases kept
  | _ => rfl

theorem isUnclaimed_of_isOver {c : Call} (finished : c.isOver) : c.isUnclaimed = false := by
  cases c with
  | returned => rfl
  | _ => cases finished

end Call

variable {spawned : Except String Unit} {now : Instant} {i : Nat} {m m' : Manager} {c c' : Call}

/-- Once the thread is taken away, it is not put back. -/
theorem Steps.taken (h : Steps spawned now i m c c' m') (kept : c.isKept)
    (taken : m.joinable = false) : m'.joinable = false := by
  cases h with
  | keep => cases kept
  | claim | skip => rfl
  | _ => exact taken

theorem Steps.kept (h : Steps spawned now i m c c' m') (kept : c.isKept) : c'.isKept := by
  cases h with
  | take | announce | listen | spawn => cases kept
  | _ => rfl

/-- A call to connect comes to an end where it started no thread, or leaves it to be waited for. -/
theorem Steps.unkept (h : Steps spawned now i m c c' m') (unkept : c.isKept = false)
    (kept : c'.isKept) : m'.joinable ∨ c.isEarly ∧ m'.thread = m.thread := by
  cases h with
  | refuse | spawnFailed => exact .inr ⟨rfl, rfl⟩
  | keep => exact .inl rfl
  | take | announce | listen | spawn => cases kept
  | sleep awaits | succeed awaits | giveUp awaits => rcases awaits with rfl | rfl <;> cases unkept
  | _ => cases unkept

theorem Steps.unclaimed (h : Steps spawned now i m c c' m') (unclaimed : c.isUnclaimed) :
    c'.isUnclaimed ∨ m'.joinable = false := by
  cases h with
  | part | proceed | bye | stop => exact .inl rfl
  | claim | skip => exact .inr rfl
  | sleep awaits | succeed awaits | giveUp awaits =>
    rcases awaits with rfl | rfl <;> cases unclaimed
  | _ => cases unclaimed

theorem Steps.withheld (h : Steps spawned now i m c c' m')
    (before : c.isWithheld → m.joinable = false) (withheld : c'.isWithheld) :
    m'.joinable = false := by
  cases h with
  | refuse | take | announce | listen | spawn | spawnFailed => exact before rfl
  | claim | skip => rfl
  | join | reset => exact before rfl
  | _ => cases withheld

end Manager

open Manager (Call)

theorem Signal.Turn.state {s s' : Signal} {now : Instant} {w : OutcomeWaiter}
    {answers : List Signal.Answer} (turn : s.Turn now w s' answers) : s'.state = s.state := by
  cases turn <;> assumption

/-! ## Who sees to the end of the session -/

/-- Once the thread has been taken away, somebody still waits for it, or it is gone; then somebody
still has to show that, or it shows. -/
def Guarded (calls : List Call) (m : Manager) : Prop :=
  ∀ t, m.thread = some t → m.joinable = false →
    (∃ result, Call.join result ∈ calls) ∨
    t.loop.stage = .gone ∧ ((∃ result, Call.reset result ∈ calls) ∨ m.signal.state = .disconnected)

variable {calls calls' : List Call} {spawned : Except String Unit} {now : Instant} {i : Nat}
  {m m' : Manager} {c c' : Call}

theorem Guarded.of (guarded : Guarded calls m) (thread : m'.thread = m.thread)
    (taken : m'.joinable = false → m.joinable = false)
    (joins : ∀ result, .join result ∈ calls → .join result ∈ calls')
    (shows : (∃ result, Call.reset result ∈ calls) ∨ m.signal.state = .disconnected →
      (∃ result, Call.reset result ∈ calls') ∨ m'.signal.state = .disconnected) :
    Guarded calls' m' := by
  intro t there untied
  rcases guarded t (thread.symm.trans there) (taken untied) with ⟨result, waits⟩ | ⟨gone, shown⟩
  · exact .inl ⟨result, joins result waits⟩
  · exact .inr ⟨gone, shows shown⟩

theorem mem_set_of_ne {k : Nat} (there : calls[k]? = some c) {other : Call} (member : other ∈ calls)
    (ne : other ≠ c) : other ∈ calls.set k c' := by
  obtain ⟨j, found⟩ := List.mem_iff_getElem?.mp member
  have apart : k ≠ j := by
    rintro rfl
    exact ne (Option.some.inj (found.symm.trans there))
  exact List.mem_iff_getElem?.mpr ⟨j, (List.getElem?_set_ne apart).trans found⟩

theorem mem_set_self {k : Nat} (there : calls[k]? = some c) : c' ∈ calls.set k c' := by
  obtain ⟨bound, -⟩ := List.getElem?_eq_some_iff.mp there
  exact List.mem_set bound c'

theorem Guarded.pass (guarded : Guarded calls m) {k : Nat} (there : calls[k]? = some c)
    (join : ∀ result, Call.join result ≠ c) (reset : ∀ result, Call.reset result ≠ c)
    (thread : m'.thread = m.thread) (taken : m'.joinable = false → m.joinable = false)
    (state : m.signal.state = .disconnected → m'.signal.state = .disconnected) :
    Guarded (calls.set k c') m' := by
  refine guarded.of thread taken (fun result waits => mem_set_of_ne there waits (join result)) ?_
  exact Or.imp (fun ⟨result, shows⟩ => ⟨result, mem_set_of_ne there shows (reset result)⟩) state

/-- No step of a call leaves the session without somebody to see to its end. -/
theorem Guarded.steps (guarded : Guarded calls m) {k : Nat} (there : calls[k]? = some c)
    (kept : c.isKept) (h : m.Steps spawned now i c c' m') : Guarded (calls.set k c') m' := by
  cases h with
  | refuse | take | announce | listen | spawn | spawnFailed | keep => cases kept
  | sleep awaits _ turn | succeed awaits _ turn | giveUp awaits _ turn =>
    refine guarded.pass there ?_ ?_ rfl id turn.state.trans
    all_goals rcases awaits with rfl | rfl <;> exact nofun
  | abandon => exact guarded.pass there nofun nofun rfl id fun _ => Signal.fail_state ..
  | part | proceed | bye | stop => exact guarded.pass there nofun nofun rfl id id
  | claim => exact fun t _ _ => .inl ⟨_, mem_set_self there⟩
  | skip claimed => exact guarded.pass there nofun nofun rfl (fun _ => claimed) id
  | join gone => exact fun t thread _ => .inr ⟨gone t thread, .inl ⟨_, mem_set_self there⟩⟩
  | reset =>
    exact guarded.of rfl id (fun result waits => mem_set_of_ne there waits nofun) fun _ => .inr rfl

namespace Ensemble

variable {s s' : Ensemble} {moves : List Move}

/-- Whether all calls have returned. -/
def isOver (s : Ensemble) : Bool := (s.opener :: s.closers).all (·.isOver)

structure Watched (s : Ensemble) : Prop where
  guarded : s.opener.isKept → Guarded (s.opener :: s.closers) s.manager
  withheld : s.opener.isWithheld → s.manager.joinable = false

theorem Watched.step (watched : s.Watched) (coherent : s.Coherent) (h : Advances s s') :
    s'.Watched := by
  cases h with
  | pass | react | relink => exact ⟨watched.guarded, watched.withheld⟩
  | @connect spawned opener manager steps =>
    refine ⟨fun kept => ?_, steps.withheld watched.withheld⟩
    -- The guard begins with the step that leaves the thread to be waited for.
    by_cases before : s.opener.isKept
    · exact (watched.guarded before).steps (k := 0) rfl before steps
    · rcases steps.unkept (eq_false_of_ne_true before) kept with joinable | ⟨early, same⟩
      · exact fun t _ untied => absurd joinable (ne_true_of_eq_false untied)
      · intro t thread
        cases ((coherent.early early).symm.trans same.symm).trans thread
  | disconnect =>
    refine ⟨fun kept => ?_, watched.withheld⟩
    have more {c : Call} (there : c ∈ s.opener :: s.closers) :
        c ∈ s.opener :: (s.closers ++ [.disconnect]) := by
      rw [← List.cons_append]
      exact List.mem_append_left _ there
    exact (watched.guarded kept).of rfl id (fun _ => more)
      (Or.imp_left fun ⟨result, shows⟩ => ⟨result, more shows⟩)
  | @close k call next manager there steps =>
    have kept := Call.isKept_of_isClosing (coherent.closers _ (List.mem_of_getElem? there))
    refine ⟨fun opener => ?_, fun withheld => steps.taken kept (watched.withheld withheld)⟩
    exact (watched.guarded opener).steps (k := k + 1) there kept steps
  | @launch t thread fresh idle =>
    refine ⟨fun kept t' there untied => ?_, watched.withheld⟩
    rcases watched.guarded kept t thread untied with waits | ⟨gone, -⟩
    · exact .inl waits
    · rw [(coherent.lived t thread).eq_of_nil fresh] at gone
      cases gone
  | @carryOut t d effect underway thread =>
    refine ⟨fun kept t' there untied => ?_, watched.withheld⟩
    rcases watched.guarded kept t thread untied with waits | ⟨gone, -⟩
    · exact .inl waits
    · obtain ⟨-, reacted⟩ := coherent.underway d effect underway t thread
      rw [Loop.react?_gone gone] at reacted
      cases reacted

theorem watched_of_run {m : Manager} {now : Instant} (unused : m.Unused)
    (run : (start m now).run? moves = some s) : s.Coherent ∧ s.Watched :=
  (Coherent.start unused now).keeps (fun coherent watched h => watched.step coherent h)
    ⟨nofun, fun _ => unused.joinable⟩ run

/-- If nobody is left to wait for the thread then the session has come to its end. -/
theorem Watched.atRest (watched : s.Watched) (coherent : s.Coherent) (finished : s.isOver)
    (taken : s.manager.joinable = false) : s.AtRest := by
  have returned := List.all_eq_true.mp finished
  have opener := returned s.opener List.mem_cons_self
  have kept := Call.isKept_of_isOver opener
  have gone (t : NetworkThread) (thread : s.manager.thread = some t) :
      t.loop.stage = .gone ∧ s.manager.signal.state = .disconnected := by
    rcases watched.guarded kept t thread taken with
      ⟨result, waits⟩ | ⟨gone, ⟨result, shows⟩ | state⟩
    · cases returned _ waits
    · cases returned _ shows
    · exact ⟨gone, state⟩
  have idle := coherent.idle_of_gone fun t thread => (gone t thread).1
  refine ⟨opener, fun t thread => (gone t thread).1, idle, ?_⟩
  cases thread : s.manager.thread with
  | some t => exact (gone t thread).2
  | none =>
    obtain ⟨-, -, early | ⟨-, state⟩⟩ := coherent.absent thread
    · exact absurd early (ne_true_of_eq_false (Call.isEarly_of_isKept kept))
    · exact state

/-- The thread is taken away, or a certain call to disconnect will do that. -/
def Claimed (k : Nat) (s : Ensemble) : Prop :=
  s.opener.isKept ∧ ((∃ c, s.closers[k]? = some c ∧ c.isUnclaimed) ∨ s.manager.joinable = false)

theorem Claimed.step {k : Nat} (claimed : s.Claimed k) (coherent : s.Coherent)
    (h : Advances s s') : s'.Claimed k := by
  obtain ⟨kept, claims⟩ := claimed
  cases h with
  | pass | react | relink | launch | carryOut => exact ⟨kept, claims⟩
  | connect steps => exact ⟨steps.kept kept, claims.imp_right (steps.taken kept)⟩
  | disconnect =>
    refine ⟨kept, claims.imp_left fun ⟨c, there, unclaimed⟩ => ⟨c, ?_, unclaimed⟩⟩
    exact List.getElem?_append_left (List.getElem?_eq_some_iff.mp there).1 ▸ there
  | @close j call next manager there steps =>
    have past := Call.isKept_of_isClosing (coherent.closers _ (List.mem_of_getElem? there))
    refine ⟨kept, ?_⟩
    rcases claims with ⟨c, found, unclaimed⟩ | taken
    -- It is the call itself that goes on, or another one that does not touch it.
    · by_cases same : j = k
      · subst same
        cases there.symm.trans found
        rcases steps.unclaimed unclaimed with unclaimed | taken
        · have bound := (List.getElem?_eq_some_iff.mp there).1
          exact .inl ⟨next, List.getElem?_set_self bound, unclaimed⟩
        · exact .inr taken
      · exact .inl ⟨c, (List.getElem?_set_ne same).trans found, unclaimed⟩
    · exact .inr (steps.taken past taken)

/-- A call to disconnect that comes after the thread was left to be waited for takes it away. -/
theorem taken_of_disconnect {s₁ : Ensemble} {after : List Move} (coherent : s₁.Coherent)
    (kept : s₁.opener.isKept) (run : s₁.run? (.disconnect :: after) = some s)
    (finished : s.isOver) : s.manager.joinable = false := by
  have called : ({ s₁ with closers := s₁.closers ++ [.disconnect] } : Ensemble).Claimed
      s₁.closers.length :=
    ⟨kept, .inl ⟨.disconnect, by simp, rfl⟩⟩
  obtain ⟨next, first, rest⟩ := foldlM_cons_eq_some.mp run
  cases first
  obtain ⟨-, -, ⟨c, there, unclaimed⟩ | taken⟩ := (coherent.step .disconnect).keeps
    (fun coherent claimed h => claimed.step coherent h) called rest
  · have member := List.mem_cons_of_mem s.opener (List.mem_of_getElem? there)
    have returned := List.all_eq_true.mp finished c member
    exact absurd unclaimed (ne_true_of_eq_false (Call.isUnclaimed_of_isOver returned))
  · exact taken

/-- Once all calls have returned, the session has come to its end if somebody took the thread away:
so it has if one of the calls to disconnect came after the thread was left to be waited for, and if
the call to connect failed. -/
theorem disconnect_stops {m : Manager} {now : Instant} (unused : m.Unused)
    (run : (start m now).run? moves = some s) (finished : s.isOver) :
    (s.manager.joinable = false → s.AtRest) ∧
    (∀ before after s₁, moves = before ++ .disconnect :: after →
      (start m now).run? before = some s₁ → s₁.opener.isKept → s.AtRest) ∧
    ∀ fault, s.opener = .returned (.error fault) → s.AtRest := by
  obtain ⟨coherent, watched⟩ := watched_of_run unused run
  refine ⟨watched.atRest coherent finished, fun before after s₁ split first kept => ?_,
    fun fault returned => ?_⟩
  · have rest : s₁.run? (.disconnect :: after) = some s :=
      (foldlM_append_of_eq_some first).symm.trans (split ▸ run)
    exact watched.atRest coherent finished
      (taken_of_disconnect (coherent_of_run unused first) kept rest finished)
  · exact watched.atRest coherent finished (watched.withheld (by rw [returned]; rfl))

/-- A call to disconnect comes while the call to connect waits. -/
def interrupted : List Move :=
  [.connect (.ok ()), .connect (.ok ()), .connect (.ok ()), .connect (.ok ()), .launch,
    .connect (.ok ()), .connect (.ok ()), .disconnect, .close 0, .close 0, .close 0,
    .react .shutdown, .carryOut, .react .proceed, .carryOut, .connect (.ok ()), .connect (.ok ()),
    .connect (.ok ()), .connect (.ok ()), .connect (.ok ()), .close 0, .close 0]

theorem disconnect_stops_interrupted :
    ∃ s, (start (newManager .usual) .origin).run? interrupted = some s ∧
      s.opener = .returned (.error Loop.stopFault) ∧ s.AtRest :=
  ⟨_, rfl, rfl,
    (@disconnect_stops _ interrupted _ .origin (newManager_unused .usual) rfl rfl).2.2 _ rfl⟩

/-- A call to disconnect that comes with the call to connect under way, and in vain. -/
def Lost (before after : List Move) : Prop :=
  ∃ s₁ s, (start (newManager .usual) .origin).run? before = some s₁ ∧ s₁.opener ≠ .connect ∧
    s₁.run? (.disconnect :: after) = some s ∧ s.isOver ∧ ¬s.AtRest

/-- The thread only begins to listen after it has been asked to stop, and goes on for ever. -/
def unheard : List Move :=
  [.close 0, .close 0, .close 0, .close 0, .connect (.ok ()), .connect (.ok ()), .connect (.ok ()),
    .launch, .connect (.ok ()), .react (.polled (.ok (.incoming (.connAck false .success)))),
    .carryOut, .connect (.ok ())]

/-- The thread is asked to stop before it can be waited for, and tells of its session after the
call has told that there is none. -/
def overtaken : List Move :=
  [.close 0, .close 0, .close 0, .close 0, .carryOut, .connect (.ok ()), .connect (.ok ()),
    .react .shutdown, .carryOut, .react .drained, .carryOut, .react .proceed, .carryOut]

theorem disconnect_lost :
    Lost [.connect (.ok ())] unheard ∧
    Lost [.connect (.ok ()), .connect (.ok ()), .connect (.ok ()), .connect (.ok ()), .launch,
      .react (.polled (.ok (.incoming (.connAck false .success))))] overtaken := by
  constructor
  · refine ⟨_, _, rfl, nofun, rfl, rfl, fun rest => ?_⟩
    cases rest.state
  · refine ⟨_, _, rfl, nofun, rfl, rfl, fun rest => ?_⟩
    cases rest.state

end Ensemble

end Courier
