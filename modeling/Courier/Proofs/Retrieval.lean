import Courier.Proofs.Run
import Courier.Subscription

/-!
# Calls that wait at one mailbox

Any number of calls ask one mailbox for messages, with and without a time limit, while messages
arrive. A call reads the clock before it first has the lock; a sleeper whose time is up wakes in one
step and has the lock again in another, and meanwhile no message wakes it. As long as anybody
sleeps, there are as many woken calls on their way as messages. A call gives up only where there is
nothing to be had.
-/

namespace Courier

namespace Mailbox

/-- If anybody sleeps then every message that waits has a woken call on its way. -/
def IsWatched (b : Mailbox) : Prop := b.asleep ≠ [] → b.pending.length ≤ b.woken.length

variable {b : Mailbox} {w : Waiter}

theorem isWatched_empty : empty.IsWatched := fun sleeping => absurd rfl sleeping

theorem IsWatched.push (watched : b.IsWatched) (m : Message) (chosen : Nat) :
    (b.push m chosen).IsWatched := by
  unfold Mailbox.push
  split
  · rename_i nobody
    intro sleeping
    have inside := Nat.mod_lt chosen (List.length_pos_iff.mpr sleeping)
    exact absurd (List.getElem?_eq_none_iff.mp nobody) (Nat.not_le_of_gt inside)
  · rename_i sleeper found
    intro _
    have slept : b.asleep ≠ [] := List.ne_nil_of_mem (List.mem_of_getElem? found)
    simpa using watched slept

/-- A call that has the lock takes a message with it, so there may have been one too many. -/
theorem IsWatched.spare (watched : b.IsWatched) (sleeping : b.asleep ≠ []) :
    b.pending.length ≤ b.woken.length + 1 := Nat.le_succ_of_le (watched sleeping)

theorem IsWatched.without_asleep (watched : b.IsWatched) (w : Waiter) :
    { b with asleep := b.asleep.erase w }.IsWatched := fun sleeping =>
  watched fun nobody => sleeping (by simp [nobody])

end Mailbox

/-- A call for the next message: how long it may take, and what the clock showed at its start. -/
structure Retrieval where
  timeout : Option Span
  began : Instant

/-- When a call gives up, if it has a limit that the clock can show. -/
def Retrieval.deadline? (r : Retrieval) : Option Instant := r.timeout >>= r.began.after?

/-- What a call returned, when, and the messages that waited at that moment. -/
structure Retrieved where
  id : Nat
  time : Instant
  waiting : List Message
  result : Except Fault Message

structure Retrievals where
  filter : String
  box : Mailbox
  now : Instant
  /-- Every call that was ever made, in its place. -/
  calls : List Retrieval
  /-- Calls that have not had the lock yet. -/
  coming : List Waiter
  /-- Sleepers whose time is up and that have not had the lock again. -/
  late : List Waiter
  /-- What calls returned, the latest last. -/
  returned : List Retrieved

namespace Retrievals

def start (filter : String) (now : Instant) : Retrievals := ⟨filter, .empty, now, [], [], [], []⟩

/-- What comes of a turn at the mailbox. -/
def serve (s : Retrievals) : Mailbox × List Mailbox.Answer → Retrievals
  | (box, answers) =>
    let returned : List Retrieved := answers.map fun answer =>
      ⟨answer.id, s.now, s.box.pending,
        answer.message.elim (.error (.receiveTimeout s.filter)) .ok⟩
    { s with box, returned := s.returned ++ returned }

inductive Move where
  /-- The clock goes on. -/
  | pass (later : Instant)
  /-- A message arrives; `chosen` is the place of the sleeper that it wakes. -/
  | push (m : Message) (chosen : Nat)
  /-- A call comes and reads the clock. -/
  | call (timeout : Option Span)
  /-- It has the lock for the first time. -/
  | enter (id : Nat)
  | resume (id : Nat)
  | stir (id : Nat)
  /-- The time of a sleeper is up. -/
  | expire (id : Nat)
  /-- A call whose time was up has the lock again. -/
  | leave (id : Nat)

/-- The call that has the lock. -/
def Move.caller? : Move → Option Nat
  | .enter id | .resume id | .stir id | .leave id => some id
  | _ => none

def step? (s : Retrievals) : Move → Option Retrievals
  | .pass later => if s.now ≤ later then some { s with now := later } else none
  | .push m chosen => some { s with box := s.box.push m chosen }
  | .call timeout =>
    let call : Retrieval := ⟨timeout, s.now⟩
    some { s with
      calls := s.calls ++ [call]
      coming := s.coming ++ [⟨s.calls.length, call.deadline?⟩] }
  | .enter id => (s.coming.find? (·.id = id)).map fun w =>
    { s with coming := s.coming.erase w }.serve (s.box.arrive w)
  | .resume id => (s.box.step? s.now (.resume id)).map s.serve
  | .stir id => (s.box.step? s.now (.stir id)).map s.serve
  | .expire id => do
    let w ← s.box.asleep.find? (·.id = id)
    let deadline ← w.deadline
    if deadline ≤ s.now then
      some { s with box.asleep := s.box.asleep.erase w, late := s.late ++ [w] }
    else none
  | .leave id => (s.late.find? (·.id = id)).map fun w =>
    { s with late := s.late.erase w }.serve (s.box.giveUp w)

def run? (moves : List Move) (s : Retrievals) : Option Retrievals := moves.foldlM step? s

/-- The calls that have not returned. -/
def callers (s : Retrievals) : List Waiter := s.coming ++ s.box.asleep ++ s.box.woken ++ s.late

/-- A call leaves the place where it was, to have the lock. -/
inductive Yields (s : Retrievals) (w : Waiter) : Retrievals → Prop where
  | coming (there : w ∈ s.coming) : Yields s w { s with coming := s.coming.erase w }
  | woken (there : w ∈ s.box.woken) : Yields s w { s with box.woken := s.box.woken.erase w }
  | asleep (there : w ∈ s.box.asleep) : Yields s w { s with box.asleep := s.box.asleep.erase w }
  | late (there : w ∈ s.late) : Yields s w { s with late := s.late.erase w }

/-- What comes of a call that has the lock. -/
inductive Turn (s : Retrievals) (w : Waiter) : Retrievals → Prop where
  | fetch {t : Retrievals} {m : Message} {rest : List Message} (yields : s.Yields w t)
      (found : s.box.pending = m :: rest) :
      Turn s w { t with
        box.pending := rest, returned := s.returned ++ [⟨w.id, s.now, m :: rest, .ok m⟩] }
  | sleep {t : Retrievals} (yields : s.Yields w t) (nothing : s.box.pending = []) :
      Turn s w { t with box.asleep := t.box.asleep ++ [w] }
  | giveUp (there : w ∈ s.late) (nothing : s.box.pending = []) :
      Turn s w { s with
        late := s.late.erase w
        returned := s.returned ++ [⟨w.id, s.now, [], .error (.receiveTimeout s.filter)⟩] }

/-- Everything that a move can do. -/
inductive Advances (s : Retrievals) : Move → Retrievals → Prop where
  | pass {later : Instant} (onward : s.now ≤ later) :
      Advances s (.pass later) { s with now := later }
  | push (m : Message) (chosen : Nat) :
      Advances s (.push m chosen) { s with box := s.box.push m chosen }
  | call (timeout : Option Span) :
      Advances s (.call timeout) { s with
        calls := s.calls ++ [⟨timeout, s.now⟩]
        coming := s.coming ++ [⟨s.calls.length, (Retrieval.mk timeout s.now).deadline?⟩] }
  | turn {move : Move} {w : Waiter} {s' : Retrievals} (caller : move.caller? = some w.id)
      (turn : s.Turn w s') : Advances s move s'
  | expire {w : Waiter} {deadline : Instant} (there : w ∈ s.box.asleep)
      (limit : w.deadline = some deadline) (past : deadline ≤ s.now) :
      Advances s (.expire w.id)
        { s with box.asleep := s.box.asleep.erase w, late := s.late ++ [w] }

variable {s s' t : Retrievals} {w : Waiter} {move : Move} {moves : List Move} {filter : String}
  {now : Instant}

/-! ## What a move can do -/

theorem Yields.same (yields : s.Yields w t) : t.filter = s.filter ∧ t.now = s.now ∧
    t.calls = s.calls ∧ t.returned = s.returned ∧ t.box.pending = s.box.pending := by
  cases yields <;> exact ⟨rfl, rfl, rfl, rfl, rfl⟩

theorem turn_arrive (yields : s.Yields w t) : s.Turn w (t.serve (t.box.arrive w)) := by
  obtain ⟨-, now, -, returned, same⟩ := yields.same
  cases found : s.box.pending with
  | cons m rest =>
    rw [found] at same
    have turn := Turn.fetch yields found
    simpa [serve, Mailbox.arrive, same, now, returned] using turn
  | nil =>
    rw [found] at same
    have turn := Turn.sleep yields found
    simpa [serve, Mailbox.arrive, same] using turn

theorem turn_giveUp (there : w ∈ s.late) :
    s.Turn w ({ s with late := s.late.erase w }.serve (s.box.giveUp w)) := by
  cases found : s.box.pending with
  | cons m rest =>
    have turn := Turn.fetch (.late there) found
    simpa [serve, Mailbox.giveUp, found] using turn
  | nil =>
    have turn := Turn.giveUp there found
    simpa [serve, Mailbox.giveUp, found] using turn

theorem advances_of_step? (h : s.step? move = some s') : s.Advances move s' := by
  cases move with
  | pass later =>
    simp only [step?] at h
    split at h
    · rename_i onward
      cases h
      exact .pass onward
    · cases h
  | push m chosen =>
    cases h
    exact .push m chosen
  | call timeout =>
    cases h
    exact .call timeout
  | enter id =>
    obtain ⟨w, found, rfl⟩ := Option.map_eq_some_iff.mp h
    obtain rfl : w.id = id := by simpa using List.find?_some found
    exact .turn rfl (turn_arrive (.coming (List.mem_of_find?_eq_some found)))
  | resume id =>
    obtain ⟨visited, stepped, rfl⟩ := Option.map_eq_some_iff.mp h
    obtain ⟨w, found, taken⟩ := Option.bind_eq_some_iff.mp stepped
    obtain rfl : w.id = id := by simpa using List.find?_some found
    cases taken
    exact .turn rfl (turn_arrive (.woken (List.mem_of_find?_eq_some found)))
  | stir id =>
    obtain ⟨visited, stepped, rfl⟩ := Option.map_eq_some_iff.mp h
    obtain ⟨w, found, taken⟩ := Option.bind_eq_some_iff.mp stepped
    obtain rfl : w.id = id := by simpa using List.find?_some found
    cases taken
    exact .turn rfl (turn_arrive (.asleep (List.mem_of_find?_eq_some found)))
  | expire id =>
    obtain ⟨w, found, timed⟩ := Option.bind_eq_some_iff.mp h
    obtain ⟨deadline, limit, woke⟩ := Option.bind_eq_some_iff.mp timed
    obtain rfl : w.id = id := by simpa using List.find?_some found
    split at woke
    · rename_i past
      cases woke
      exact .expire (List.mem_of_find?_eq_some found) limit past
    · cases woke
  | leave id =>
    obtain ⟨w, found, rfl⟩ := Option.map_eq_some_iff.mp h
    obtain rfl : w.id = id := by simpa using List.find?_some found
    exact .turn rfl (turn_giveUp (List.mem_of_find?_eq_some found))

/-- With nothing in between, the two steps of a call whose time is up are the mailbox's one. -/
theorem expire_leave {id : Nat} (nobody : ∀ w ∈ s.late, w.id ≠ id) :
    (s.step? (.expire id)).bind (·.step? (.leave id)) =
      (s.box.step? s.now (.expire id)).map s.serve := by
  cases found : s.box.asleep.find? (·.id = id) with
  | none => simp [step?, Mailbox.step?, found]
  | some w =>
    obtain rfl : w.id = id := by simpa using List.find?_some found
    have unfound : s.late.find? (·.id = w.id) = none := by simpa using nobody
    have new : w ∉ s.late := fun there => nobody w there rfl
    cases limit : w.deadline with
    | none => simp [step?, Mailbox.step?, found, limit]
    | some deadline =>
      by_cases past : deadline ≤ s.now
      · simp [step?, Mailbox.step?, found, limit, past, List.find?_append, unfound,
          List.erase_append_right _ new]
        rfl
      · simp [step?, Mailbox.step?, found, limit, past]

/-! ## What holds at every moment -/

theorem Yields.spare (yields : s.Yields w t) (watched : s.box.IsWatched)
    (sleeping : t.box.asleep ≠ []) : t.box.pending.length ≤ t.box.woken.length + 1 := by
  cases yields with
  | coming | late => exact watched.spare sleeping
  | woken there =>
    have woken := List.length_erase_of_mem there
    have enough := watched sleeping
    change s.box.pending.length ≤ (s.box.woken.erase w).length + 1
    omega
  | asleep => exact (watched.without_asleep w).spare sleeping

theorem Yields.mem_callers (yields : s.Yields w t) : w ∈ s.callers := by
  unfold callers
  cases yields <;> simp_all

theorem Yields.callers (yields : s.Yields w t) {other : Waiter} (there : other ∈ t.callers) :
    other ∈ s.callers := by
  have kept {places : List Waiter} (there : other ∈ places.erase w) : other ∈ places :=
    List.mem_of_mem_erase there
  unfold Retrievals.callers at there ⊢
  simp only [List.mem_append] at there ⊢
  cases yields with
  | coming => exact there.imp_left (·.imp_left (·.imp_left kept))
  | woken => exact there.imp_left (·.imp_right kept)
  | asleep => exact there.imp_left (·.imp_left (·.imp_right kept))
  | late => exact there.imp_right kept

theorem Yields.late_of_late (yields : s.Yields w t) {other : Waiter} (there : other ∈ t.late) :
    other ∈ s.late := by
  cases yields with
  | late => exact List.mem_of_mem_erase there
  | _ => exact there

/-- A call returned the first message that waited, or nothing could be had past its deadline. -/
def Justified (s : Retrievals) (o : Retrieved) : Prop :=
  match o.result with
  | .ok m => o.waiting.head? = some m
  | .error fault => fault = .receiveTimeout s.filter ∧ o.waiting = [] ∧
    ∃ r deadline, s.calls[o.id]? = some r ∧ r.deadline? = some deadline ∧ deadline ≤ o.time

theorem Justified.mono {o : Retrieved} (justified : s.Justified o) (filter : s'.filter = s.filter)
    (calls : ∀ (i : Nat) r, s.calls[i]? = some r → s'.calls[i]? = some r) : s'.Justified o := by
  unfold Justified at justified ⊢
  split
  · simp_all
  · rename_i fault failed
    rw [failed] at justified
    obtain ⟨same, nothing, r, deadline, call, limit, past⟩ := justified
    exact ⟨same.trans (filter ▸ rfl), nothing, r, deadline, calls _ _ call, limit, past⟩

structure Sound (s : Retrievals) : Prop where
  watched : s.box.IsWatched
  known : ∀ w ∈ s.callers, ∃ r, s.calls[w.id]? = some r ∧ r.deadline? = w.deadline
  late : ∀ w ∈ s.late, ∃ deadline, w.deadline = some deadline ∧ deadline ≤ s.now
  returned : ∀ o ∈ s.returned, s.Justified o

theorem sound_start (filter : String) (now : Instant) : (start filter now).Sound where
  watched := Mailbox.isWatched_empty
  known w there := by cases there
  late w there := by cases there
  returned o there := by cases there

theorem Sound.turn (sound : s.Sound) (turn : s.Turn w s') : s'.Sound := by
  cases turn with
  | @fetch t m rest yields found =>
    obtain ⟨filter, now, calls, -, pending⟩ := yields.same
    refine ⟨fun sleeping => ?_, fun other there => ?_, fun other there => ?_, fun o there => ?_⟩
    · have enough := yields.spare sound.watched sleeping
      rw [pending, found] at enough
      simpa using enough
    · exact calls ▸ sound.known other (yields.callers there)
    · exact now ▸ sound.late other (yields.late_of_late there)
    · have before : s.Justified o := by
        rcases List.mem_append.mp there with old | new
        · exact sound.returned o old
        · rw [List.mem_singleton.mp new]
          exact rfl
      exact before.mono filter fun _ _ call => calls ▸ call
  | @sleep t yields nothing =>
    obtain ⟨filter, now, calls, returned, pending⟩ := yields.same
    refine ⟨fun _ => ?_, fun other there => ?_, fun other there => ?_, fun o there => ?_⟩
    · simp [pending, nothing]
    · have known : other = w ∨ other ∈ t.callers := by
        unfold callers at there ⊢
        simp only [List.mem_append, List.mem_singleton] at there ⊢
        grind
      rcases known with rfl | there
      · exact calls ▸ sound.known other yields.mem_callers
      · exact calls ▸ sound.known other (yields.callers there)
    · exact now ▸ sound.late other (yields.late_of_late there)
    · exact (sound.returned o (returned ▸ there)).mono filter fun _ _ call => calls ▸ call
  | giveUp there nothing =>
    have yields : s.Yields w _ := .late there
    refine ⟨sound.watched, fun other there => sound.known other (yields.callers there),
      fun other there => sound.late other (yields.late_of_late there), fun o there => ?_⟩
    rcases List.mem_append.mp there with old | new
    · exact sound.returned o old
    · rw [List.mem_singleton.mp new]
      obtain ⟨r, call, same⟩ := sound.known w yields.mem_callers
      obtain ⟨deadline, limit, past⟩ := sound.late w ‹w ∈ s.late›
      exact ⟨rfl, rfl, r, deadline, call, same.trans limit, past⟩

theorem Sound.push (sound : s.Sound) (m : Message) (chosen : Nat) :
    ({ s with box := s.box.push m chosen } : Retrievals).Sound := by
  refine ⟨sound.watched.push m chosen, fun w there => sound.known w ?_, sound.late,
    fun o there => (sound.returned o there).mono rfl fun _ _ call => call⟩
  unfold callers Mailbox.push at there
  unfold callers
  split at there
  · exact there
  · rename_i sleeper found
    have slept := List.mem_of_getElem? found
    have kept : w ∈ s.box.asleep.erase sleeper → w ∈ s.box.asleep := List.mem_of_mem_erase
    simp only [List.mem_append, List.mem_singleton] at there ⊢
    grind

theorem Sound.call (sound : s.Sound) (timeout : Option Span) :
    ({ s with
      calls := s.calls ++ [⟨timeout, s.now⟩]
      coming := s.coming ++ [⟨s.calls.length, (Retrieval.mk timeout s.now).deadline?⟩] } :
      Retrievals).Sound := by
  have old (i : Nat) (r : Retrieval) (call : s.calls[i]? = some r) :
      (s.calls ++ [⟨timeout, s.now⟩])[i]? = some r := by
    rw [List.getElem?_append_left (List.getElem?_eq_some_iff.mp call).1]
    exact call
  refine ⟨sound.watched, fun w there => ?_, sound.late,
    fun o there => (sound.returned o there).mono rfl old⟩
  have known : w = ⟨s.calls.length, (Retrieval.mk timeout s.now).deadline?⟩ ∨ w ∈ s.callers := by
    unfold callers at there ⊢
    simp only [List.mem_append, List.mem_singleton] at there ⊢
    grind
  rcases known with rfl | there
  · exact ⟨_, List.getElem?_concat_length, rfl⟩
  · obtain ⟨r, call, same⟩ := sound.known w there
    exact ⟨r, old _ _ call, same⟩

theorem Sound.expire (sound : s.Sound) {deadline : Instant} (there : w ∈ s.box.asleep)
    (limit : w.deadline = some deadline) (past : deadline ≤ s.now) :
    ({ s with box.asleep := s.box.asleep.erase w, late := s.late ++ [w] } : Retrievals).Sound := by
  refine ⟨sound.watched.without_asleep w, fun other known => sound.known other ?_, ?_,
    fun o returned => (sound.returned o returned).mono rfl fun _ _ call => call⟩
  · have kept : other ∈ s.box.asleep.erase w → other ∈ s.box.asleep := List.mem_of_mem_erase
    unfold callers at known ⊢
    simp only [List.mem_append, List.mem_singleton] at known ⊢
    grind
  · simp only [List.forall_mem_append, List.forall_mem_singleton]
    exact ⟨sound.late, deadline, limit, past⟩

theorem Sound.step (sound : s.Sound) (h : s.Advances move s') : s'.Sound := by
  cases h with
  | pass onward =>
    refine ⟨sound.watched, sound.known, fun w there => ?_,
      fun o there => (sound.returned o there).mono rfl fun _ _ call => call⟩
    obtain ⟨deadline, limit, past⟩ := sound.late w there
    exact ⟨deadline, limit, Nat.le_trans past onward⟩
  | push m chosen => exact sound.push m chosen
  | call timeout => exact sound.call timeout
  | turn caller turn => exact sound.turn turn
  | expire there limit past => exact sound.expire there limit past

theorem sound_of_run (run : (start filter now).run? moves = some s) : s.Sound :=
  foldlM_keeps (fun sound h => sound.step (advances_of_step? h)) (sound_start filter now) run

/-- A call that has the lock where a message waits returns it, in time or not. -/
theorem Advances.fetches {id : Nat} {m : Message} {rest : List Message} (h : s.Advances move s')
    (caller : move.caller? = some id) (found : s.box.pending = m :: rest) :
    s'.box.pending = rest ∧ s'.returned = s.returned ++ [⟨id, s.now, m :: rest, .ok m⟩] := by
  cases h with
  | turn same turn =>
    cases same.symm.trans caller
    cases turn with
    | fetch yields there =>
      cases there.symm.trans found
      exact ⟨rfl, rfl⟩
    | sleep _ nothing | giveUp _ nothing => cases nothing.symm.trans found
  | _ => cases caller

/-- How calls fare that wait at a mailbox. -/
structure Attended (s : Retrievals) : Prop where
  /-- Where somebody sleeps, every message that waits has a woken call on its way. -/
  awake : s.box.asleep ≠ [] → s.box.pending.length ≤ s.box.woken.length
  /-- A call fails only past its deadline and where there is nothing to be had. -/
  failure : ∀ o ∈ s.returned, ∀ fault, o.result = .error fault →
    fault = .receiveTimeout s.filter ∧ o.waiting = [] ∧
    ∃ r deadline, s.calls[o.id]? = some r ∧ r.deadline? = some deadline ∧ deadline ≤ o.time
  /-- Without a deadline it never fails. -/
  unlimited : ∀ o ∈ s.returned, ∀ r, s.calls[o.id]? = some r → r.deadline? = none →
    ∃ m, o.result = .ok m
  /-- Whichever call has the lock where a message waits returns it. -/
  success : ∀ move id s', move.caller? = some id → s.step? move = some s' →
    ∀ m rest, s.box.pending = m :: rest →
      s'.box.pending = rest ∧ s'.returned = s.returned ++ [⟨id, s.now, m :: rest, .ok m⟩]

theorem attended_of_run (run : (start filter now).run? moves = some s) : s.Attended := by
  have sound := sound_of_run run
  have failure : ∀ o ∈ s.returned, ∀ fault, o.result = .error fault →
      fault = .receiveTimeout s.filter ∧ o.waiting = [] ∧
      ∃ r deadline, s.calls[o.id]? = some r ∧ r.deadline? = some deadline ∧ deadline ≤ o.time := by
    intro o there fault failed
    have justified := sound.returned o there
    rw [Justified, failed] at justified
    exact justified
  refine ⟨sound.watched, failure, fun o there r call unlimited => ?_,
    fun move id s' caller step m rest found => (advances_of_step? step).fetches caller found⟩
  cases result : o.result with
  | ok m => exact ⟨m, rfl⟩
  | error fault =>
    obtain ⟨-, -, r', deadline, call', limit, -⟩ := failure o there fault result
    cases call.symm.trans call'
    cases limit.symm.trans unlimited

/-- Of two sleepers one is woken, but a newcomer that may not wait at all is faster. The woken call
sleeps on, its time is up, and it finds a message after all, for which the other was woken. That one
sleeps on too, and the next call finds nothing. At last the first of two sleepers is woken. -/
def overtaken : List Move :=
  [.call none, .call (some (Span.ofSecs 1)), .enter 0, .enter 1, .push ⟨"t", [1]⟩ 1,
    .call (some .zero), .enter 2, .resume 1, .pass ⟨1500000000, by decide⟩, .expire 1,
    .push ⟨"t", [2]⟩ 0, .leave 1, .resume 0, .call (some .zero), .enter 3, .expire 3, .leave 3,
    .call (some .longest), .enter 4, .push ⟨"t", [3]⟩ 0]

theorem attended_of_overtaken :
    ∃ s, (start "t" .origin).run? overtaken = some s ∧ s.Attended ∧
      s.returned.map (fun o => (o.id, o.result.toOption.map (·.payload))) =
        [(2, some [1]), (1, some [2]), (3, none)] ∧
      s.box = ⟨[⟨"t", [3]⟩], [⟨4, none⟩], [⟨0, none⟩]⟩ :=
  ⟨_, rfl, @attended_of_run _ overtaken "t" .origin rfl, rfl, rfl⟩

end Retrievals

end Courier
