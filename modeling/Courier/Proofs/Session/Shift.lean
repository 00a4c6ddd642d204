import Courier.Proofs.Session.Ensemble

/-!
# Requests to stop that come too early

A network thread is asked to stop by what comes after it began to listen. How often a stop was
requested before that makes no difference: whatever a manager and its calls can do, they can do as
well with more of these requests, and nothing else.
-/

namespace Courier

/-- A thread that began to listen after more requests to stop. -/
def NetworkThread.shift (k : Nat) (t : NetworkThread) : NetworkThread :=
  { t with heard := t.heard + k }

namespace Manager

/-- A call that found more requests to stop when it came. -/
def Call.shift (k : Nat) : Call → Call
  | .spawn t deadline heard => .spawn t deadline (heard + k)
  | call => call

/-- A manager with more requests to stop, all of them before its thread began to listen. -/
def shift (k : Nat) (m : Manager) : Manager :=
  { m with stops := m.stops + k, thread := m.thread.map (·.shift k) }

variable {m : Manager} {spawned : Except String Unit} {now : Instant} {id : Nat}

theorem settleWait_shift (k : Nat) (deadline : Option Instant)
    (woken : Signal × List Signal.Answer) :
    (m.shift k).settleWait (.asleep deadline) woken =
      (m.settleWait (.asleep deadline) woken).map (Call.shift k) (shift k) := by
  obtain ⟨signal, answers⟩ := woken
  match answers with
  | [] => rfl
  | ⟨_, .ok ()⟩ :: _ => rfl
  | ⟨_, .error _⟩ :: _ => rfl

theorem step?_shift (k : Nat) (c : Call) :
    (m.shift k).step? spawned now id (c.shift k) =
      (m.step? spawned now id c).map (Prod.map (Call.shift k) (shift k)) := by
  cases c with
  | connect =>
    obtain ⟨options, policy, link, signal, transport, stops, thread, joinable⟩ := m
    cases transport <;> rfl
  | spawn t deadline heard => cases spawned <;> rfl
  | await deadline => exact congrArg some (settleWait_shift ..)
  | asleep deadline =>
    simp only [Call.shift, step?]
    have same : (m.shift k).signal = m.signal := rfl
    rw [same]
    cases m.signal.step? now (.resume id) with
    | some woken => exact congrArg some (settleWait_shift ..)
    | none =>
      simp only [Option.map_map]
      exact congrArg (Option.map · _) (funext fun woken => settleWait_shift ..)
  | disconnect =>
    simp only [Call.shift, step?]
    change some (if m.signal.state = .connected then _ else _, _) = _
    split <;> rfl
  | bye =>
    obtain ⟨options, policy, link, signal, transport, stops, thread, joinable⟩ := m
    simp only [Call.shift, step?, request?, shift]
    cases link.request? .caller .disconnect <;> rfl
  | claim result =>
    obtain ⟨options, policy, link, signal, transport, stops, thread, joinable⟩ := m
    cases joinable <;> rfl
  | join result =>
    obtain ⟨options, policy, link, signal, transport, stops, thread, joinable⟩ := m
    cases thread with
    | none => rfl
    | some t =>
      by_cases gone : t.loop.stage = .gone <;>
        simp [Call.shift, step?, shift, NetworkThread.shift, gone]
  | stop result =>
    simp only [Call.shift, step?, Option.map_some, Prod.map, shift]
    rw [Nat.add_right_comm]
  | announce | listen | keep | abandon | reset | returned => rfl

end Manager

namespace Ensemble

def shift (k : Nat) (s : Ensemble) : Ensemble :=
  { s with
    manager := s.manager.shift k
    opener := s.opener.shift k
    closers := s.closers.map (·.shift k) }

variable {s : Ensemble}

theorem goOn_shift (k : Nat) (next : Manager.Call × Manager) :
    (s.shift k).goOn (next.map (Manager.Call.shift k) (Manager.shift k)) =
      (s.goOn next).shift k := by
  obtain ⟨manager, now, opener, closers, opened, underway, deeds⟩ := s
  cases opener <;> rfl

theorem isUnasked_shift (k : Nat) (m : Manager) (t : NetworkThread) (stimulus : Stimulus) :
    isUnasked (m.shift k) (t.shift k) stimulus = isUnasked m t stimulus := by
  cases stimulus with
  | shutdown => exact decide_eq_decide.mpr Nat.add_le_add_iff_right
  | _ => rfl

theorem step?_shift (k : Nat) (move : Move) :
    (s.shift k).step? move = (s.step? move).map (shift k) := by
  have along {spawned : Except String Unit} {call : Manager.Call} :
      (s.manager.shift k).step? spawned s.now 0 (call.shift k) =
        (s.manager.step? spawned s.now 0 call).map (Prod.map (Manager.Call.shift k) _) :=
    Manager.step?_shift k call
  cases move with
  | pass later =>
    simp only [step?]
    change (if s.now ≤ later then _ else _) = _
    split <;> rfl
  | connect spawned =>
    simp only [step?]
    change ((s.manager.shift k).step? spawned s.now 0 (s.opener.shift k)).map _ = _
    rw [along, Option.map_map, Option.map_map]
    exact congrArg (Option.map · _) (funext fun next => goOn_shift k next)
  | stir =>
    obtain ⟨manager, now, opener, closers, opened, underway, deeds⟩ := s
    cases opener with
    | asleep deadline =>
      change (manager.signal.step? now (.stir 0)).map _ =
        ((manager.signal.step? now (.stir 0)).map _).map _
      rw [Option.map_map]
      refine congrArg (Option.map · _) (funext fun woken => ?_)
      exact (congrArg (goOn _) (Manager.settleWait_shift k deadline woken)).trans (goOn_shift k _)
    | _ => rfl
  | disconnect => simp [step?, shift, Manager.Call.shift]
  | close i =>
    simp only [step?, shift, List.getElem?_map]
    cases s.closers[i]? with
    | none => rfl
    | some call =>
      simp only [Option.map_some, Option.bind_some]
      rw [along, Option.map_map, Option.map_map]
      refine congrArg (Option.map · _) (funext fun next => ?_)
      simp only [Function.comp_apply, Prod.map, shift, List.map_set]
  | launch =>
    simp only [step?]
    change (if s.deeds.isEmpty ∧ s.underway.isNone then (s.manager.thread.map _).map _ else _) = _
    split
    · cases s.manager.thread <;> rfl
    · rfl
  | react stimulus =>
    simp only [step?, shift]
    change ((s.manager.thread.map (·.shift k)).bind fun t => _) = _
    cases s.manager.thread with
    | none => rfl
    | some t =>
      simp only [Option.map_some, Option.bind_some, isUnasked_shift]
      split
      · change (t.loop.react? s.now stimulus).map _ = _
        cases t.loop.react? s.now stimulus <;> rfl
      · rfl
  | carryOut =>
    simp only [step?, shift, Manager.shift]
    cases s.underway with
    | none => rfl
    | some decided => cases s.manager.thread <;> rfl
  | relink link => rfl

end Ensemble

end Courier
