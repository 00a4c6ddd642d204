import Mathlib.Data.List.Perm.Subperm
import Mathlib.Data.List.TakeWhile
import Courier.Proofs.Session.Ensemble

/-!
# What still goes out when a session is closed

The requests of an established session on their way out, while it is closed. Calls put theirs into
the channel. Callbacks run on the network thread and have theirs parked; the thread moves one of
them to the sending side in each round of its loop. A call to disconnect puts its own request into
the channel and asks the thread to stop, and from then on the thread only sends: nothing that is
still parked is moved any more.
-/

namespace Courier

namespace Outflow

/-- Where the network thread is in a round of its loop. -/
inductive Phase where
  | head
  /-- It waits for what comes first: a request to stop, or something to be sent or received. -/
  | selecting
  /-- A callback handles a message. -/
  | handling
  deriving DecidableEq

end Outflow

structure Outflow where
  manager : Manager
  phase : Outflow.Phase
  /-- The call to disconnect, once it has come. -/
  call : Option Manager.Call
  /-- The requests accepted so far, the latest last. -/
  accepted : List Request
  /-- Those that had been accepted when the call came. -/
  before : List Request
  /-- What the thread has taken to be sent, in order. -/
  sent : List Request
  /-- What was parked when the thread heard that it has to stop. -/
  left : List Request

namespace Outflow

/-- A session with its thread at the head of its loop; all that was accepted and is not sent yet is
on one of the three ways. -/
def start (m : Manager) (t : NetworkThread) : Outflow :=
  ⟨{ m with thread := some t }, .head, none,
    t.transport.pending ++ m.link.parked ++ m.link.queued, [], [], []⟩

/-- What the network thread may do. -/
inductive Turn where
  | release
  /-- It hears that it has to stop. -/
  | hear (now : Instant)
  /-- It takes the next request to be sent; afterwards a number may not be free. -/
  | send (collision : Bool)
  /-- It polls something else. -/
  | poll (now : Instant) (p : Polled) (collision : Bool)
  /-- On its way out it passes over what comes in. -/
  | pass (collision : Bool)
  /-- A callback makes a request. -/
  | order (request : Request)
  | handled
  | drained (now : Instant)
  | proceed (now : Instant)

inductive Move where
  /-- A call makes a request. -/
  | request (request : Request)
  /-- A call to disconnect comes. -/
  | disconnect
  | advance (now : Instant)
  | turn (turn : Turn)

/-- The link has answered a request. -/
def note (s : Outflow) (request : Request) : Except Fault Unit × Link → Outflow
  | (.ok (), link) => { s with manager.link := link, accepted := s.accepted ++ [request] }
  | (.error _, link) => { s with manager.link := link }

def keep (s : Outflow) (t : NetworkThread) (link : Link) : Outflow :=
  { s with manager.thread := some t, manager.link := link }

/-- Whether the thread polls its transport. In its loop it looks first whether it has to stop. -/
def IsPolling (s : Outflow) (t : NetworkThread) : Prop :=
  t.loop.stage = .draining ∨
    t.loop.stage = .polling ∧ s.phase = .selecting ∧ s.manager.stops ≤ t.heard

instance (s : Outflow) (t : NetworkThread) : Decidable (s.IsPolling t) :=
  inferInstanceAs (Decidable (_ ∨ _))

/-- The phase that a reaction leads to. -/
def phaseAfter : Effect → Phase
  | .dispatch _ => .handling
  | _ => .head

def turn? (s : Outflow) (t : NetworkThread) : Turn → Option Outflow
  | .release =>
    if t.loop.stage = .polling ∧ s.phase = .head then
      let (link, transport) :=
        if t.loop.connected then s.manager.link.release t.transport
        else (s.manager.link, t.transport)
      some ({ s with phase := .selecting }.keep { t with transport } link)
    else none
  | .hear now =>
    if s.phase = .selecting ∧ t.heard < s.manager.stops then
      (t.loop.react? now .shutdown).map fun (loop, _) =>
        { s with left := s.manager.link.parked }.keep { t with loop } s.manager.link
    else none
  | .send collision =>
    if s.IsPolling t ∧ (t.transport.pending = [] → t.transport.collision = false) then
      (s.manager.link.next? t.transport).map fun (request, link, transport) =>
        { s with sent := s.sent ++ [request], phase := .head }.keep
          { t with transport := { transport with collision } } link
    else none
  | .poll now p collision =>
    if t.loop.stage = .polling ∧ s.IsPolling t then
      (t.loop.react? now (.polled p)).map fun (loop, effect) =>
        { s with
          phase := phaseAfter effect
          manager.signal := effect.on now s.manager.signal }.keep
            { t with loop, transport.collision := collision } s.manager.link
    else none
  | .pass collision =>
    if t.loop.stage = .draining then
      some (s.keep { t with transport.collision := collision } s.manager.link)
    else none
  | .order request =>
    if s.phase = .handling ∧ request ≠ .disconnect then
      (s.manager.link.request? .network request).map (s.note request)
    else none
  | .handled => if s.phase = .handling then some { s with phase := .head } else none
  | .drained now =>
    (t.loop.react? now .drained).map fun (loop, _) => s.keep { t with loop } s.manager.link
  | .proceed now =>
    (t.loop.react? now .proceed).map fun (loop, effect) =>
      { s with manager.signal := effect.on now s.manager.signal }.keep { t with loop }
        s.manager.link.close

/-- The state after a move, if the move can happen. -/
def step? (s : Outflow) : Move → Option Outflow
  | .request request =>
    if request = .disconnect then none
    else (s.manager.link.request? .caller request).map (s.note request)
  | .disconnect =>
    if s.call.isNone then some { s with call := some .disconnect, before := s.accepted } else none
  | .advance now =>
    s.call.bind fun call =>
      (s.manager.step? (.ok ()) now 0 call).map fun (call, manager) =>
        { s with manager, call := some call }
  | .turn turn => s.manager.thread.bind fun t => s.turn? t turn

def run? (moves : List Move) (s : Outflow) : Option Outflow := moves.foldlM step? s

/-! ## What holds throughout -/

/-- What the channel holds ahead of the request to disconnect. -/
def ahead (queued : List Request) : List Request := queued.takeWhile (· ≠ .disconnect)

/-- How many requests to disconnect there may be: one, once the call has made it. -/
def asked : Option Manager.Call → Nat
  | none | some .disconnect | some .bye => 0
  | _ => 1

theorem asked_le_one (call : Option Manager.Call) : asked call ≤ 1 := by
  unfold asked
  split <;> omega

/-- What has to go out before the request to disconnect. -/
def owed (s : Outflow) : List Request := if s.call.isNone then s.accepted else s.before

/-- What holds throughout, of the state and its thread. -/
structure Orderly (s : Outflow) (t : NetworkThread) : Prop where
  thread : s.manager.thread = some t
  connected : t.loop.connected = true
  calm : t.loop.stage.isPause = false
  closing : ∀ call ∈ s.call, call.isClosing = true
  clean : .disconnect ∉ t.transport.pending ∧ .disconnect ∉ s.manager.link.parked
  once : s.sent.count .disconnect + s.manager.link.queued.count .disconnect ≤ asked s.call
  handling : s.phase = .handling → t.loop.stage = .polling
  /-- While the thread waits in its loop, nothing is parked that could have been moved. -/
  moved : t.loop.stage = .polling → s.phase = .selecting → t.transport.pending = [] →
    t.transport.collision = false → s.manager.link.parked = []
  unheard : t.loop.stage = .polling → s.left = []
  heard : t.loop.stage = .draining → s.manager.link.parked = s.left
  /-- Nothing that is owed is anywhere else than on its way. -/
  owes : t.loop.stage ≠ .gone → .disconnect ∉ s.sent → ∀ r, s.owed.count r ≤
    s.sent.count r + t.transport.pending.count r + s.manager.link.parked.count r +
      (ahead s.manager.link.queued).count r
  parted : .disconnect ∈ s.sent → ∃ front back, s.sent = front ++ .disconnect :: back ∧
    ∀ r, s.before.count r ≤ front.count r + s.left.count r

variable {s s' : Outflow} {t t' : NetworkThread} {now : Instant}

theorem ahead_cons {r : Request} (other : r ≠ .disconnect) (rest : List Request) :
    ahead (r :: rest) = r :: ahead rest := by
  simp [ahead, other]

theorem ahead_eq_self {queued : List Request} (none : .disconnect ∉ queued) :
    ahead queued = queued := by
  refine List.takeWhile_eq_self_iff.mpr fun r h => decide_eq_true ?_
  rintro rfl
  exact none h

/-- What joins the channel joins it at the end. -/
theorem count_ahead_snoc (queued : List Request) (x r : Request) :
    (ahead queued).count r ≤ (ahead (queued ++ [x])).count r := by
  induction queued with
  | nil => simp [ahead]
  | cons y rest ih =>
    by_cases parting : y = .disconnect
    · simp [ahead, parting]
    · rw [List.cons_append, ahead_cons parting, ahead_cons parting]
      simpa [List.count_cons] using ih

theorem orderly_start {m : Manager} (connected : t.loop.connected = true)
    (polling : t.loop.stage = .polling)
    (clean : .disconnect ∉ t.transport.pending ++ m.link.parked ++ m.link.queued) :
    (start m t).Orderly t := by
  simp only [List.mem_append, not_or] at clean
  constructor
  · rfl
  · exact connected
  · rw [polling]; rfl
  · simp [start]
  · exact clean.1
  · simp [start, List.count_eq_zero.mpr clean.2]
  · exact fun _ => polling
  · simp [start]
  · simp [start]
  · simp [polling]
  · intro _ _ r
    simp only [start, owed, ahead_eq_self clean.2, Option.isNone_none, if_true, List.count_append,
      List.count_nil]
    omega
  · simp [start]

/-- What is owed grows by what is accepted, at most. -/
theorem count_owed_le {request : Request} (call : s'.call = s.call) (before : s'.before = s.before)
    (accepted : s'.accepted = s.accepted ++ [request]) (r : Request) :
    s'.owed.count r ≤ s.owed.count r + [request].count r := by
  simp only [owed, call, before, accepted]
  split
  · exact (List.count_append ..).le
  · exact Nat.le_add_right ..

/-- A request that a call makes goes to the end of the channel. -/
theorem Orderly.queued (orderly : s.Orderly t) {request : Request} (other : request ≠ .disconnect) :
    Orderly { s with
      manager.link.queued := s.manager.link.queued ++ [request]
      accepted := s.accepted ++ [request] } t := by
  refine ⟨orderly.thread, orderly.connected, orderly.calm, orderly.closing, orderly.clean, ?_,
    orderly.handling, orderly.moved, orderly.unheard, orderly.heard, ?_, orderly.parted⟩
  · simpa [List.count_append, List.count_singleton, other] using orderly.once
  · intro standing unsent r
    have owes := orderly.owes standing unsent r
    cases call : s.call with
    | some c =>
      -- what comes after the call is not owed
      have longer := count_ahead_snoc s.manager.link.queued request r
      simp only [owed, call, Option.isNone_some, Bool.false_eq_true, if_false] at owes ⊢
      omega
    | none =>
      have once := orderly.once
      simp only [call, asked] at once
      have none : .disconnect ∉ s.manager.link.queued := by
        rw [← List.count_eq_zero]
        omega
      have none' : .disconnect ∉ s.manager.link.queued ++ [request] := by
        simp [none, Ne.symm other]
      simp only [owed, call, Option.isNone_none, if_true, ahead_eq_self none, ahead_eq_self none',
        List.count_append] at owes ⊢
      omega

/-- A request that a callback makes is parked behind the others. -/
theorem Orderly.parked (orderly : s.Orderly t) {request : Request} (other : request ≠ .disconnect)
    (handling : s.phase = .handling) :
    Orderly { s with
      manager.link.parked := s.manager.link.parked ++ [request]
      accepted := s.accepted ++ [request] } t := by
  refine ⟨orderly.thread, orderly.connected, orderly.calm, orderly.closing, ?_, orderly.once,
    orderly.handling, ?_, orderly.unheard, ?_, ?_, orderly.parted⟩
  · simpa [Ne.symm other] using orderly.clean
  · intro _ selecting
    rw [handling] at selecting
    cases selecting
  · intro draining
    rw [orderly.handling handling] at draining
    cases draining
  · intro standing unsent r
    have owes := orderly.owes standing unsent r
    refine Nat.le_trans (count_owed_le (s := s) (by rfl) (by rfl) (by rfl) r) ?_
    simp only [List.count_append]
    omega

/-- The link takes a request of a call, or leaves everything as it is. -/
theorem Orderly.request (orderly : s.Orderly t) {request : Request} (other : request ≠ .disconnect)
    {answer : Except Fault Unit × Link}
    (asked : s.manager.link.request? .caller request = some answer) :
    (s.note request answer).Orderly t := by
  obtain rfl | ⟨fault, rfl⟩ := Link.answer_of_send? asked
  · exact orderly.queued other
  · exact orderly

theorem Orderly.order (orderly : s.Orderly t) {request : Request} (other : request ≠ .disconnect)
    (handling : s.phase = .handling) {answer : Except Fault Unit × Link}
    (asked : s.manager.link.request? .network request = some answer) :
    (s.note request answer).Orderly t := by
  obtain rfl | ⟨fault, rfl⟩ := Link.answer_of_network other asked
  · exact orderly.parked other handling
  · exact orderly

/-- What is moved to the sending side is on its way as before. -/
theorem Orderly.release (orderly : s.Orderly t) (polling : t.loop.stage = .polling)
    {link : Link} {transport : Transport}
    (moved : s.manager.link.release t.transport = (link, transport)) :
    ({ s with phase := .selecting }.keep { t with transport } link).Orderly
      { t with transport } := by
  have undrained : t.loop.stage ≠ .draining := by simp [polling]
  rw [Link.release] at moved
  split at moved
  · rename_i free
    split at moved
    · rename_i request rest parked
      cases moved
      have clean := orderly.clean
      rw [parked, List.mem_cons, not_or] at clean
      refine ⟨rfl, orderly.connected, orderly.calm, orderly.closing, ?_, orderly.once, nofun,
        nofun, orderly.unheard, fun h => absurd h undrained, fun standing unsent r => ?_,
        orderly.parted⟩
      · exact ⟨by simpa using clean.2.1, clean.2.2⟩
      · have owes := orderly.owes standing unsent r
        simp only [free.1, parked, List.count_nil, List.count_cons] at owes
        change s.owed.count r ≤ _
        simp only [keep, List.count_cons, List.count_nil]
        omega
    · rename_i parked
      cases moved
      exact ⟨rfl, orderly.connected, orderly.calm, orderly.closing, orderly.clean, orderly.once,
        nofun, fun _ _ _ _ => parked, orderly.unheard, orderly.heard, orderly.owes, orderly.parted⟩
  · rename_i busy
    cases moved
    exact ⟨rfl, orderly.connected, orderly.calm, orderly.closing, orderly.clean, orderly.once,
      nofun, fun _ _ empty free => absurd ⟨empty, free⟩ busy, orderly.unheard, orderly.heard,
      orderly.owes, orderly.parted⟩

theorem Orderly.reacts (orderly : s.Orderly t) {stimulus : Stimulus} {loop : Loop}
    {effect : Effect} (reacted : t.loop.react? now stimulus = some (loop, effect)) :
    t.loop.Reacts now stimulus loop effect :=
  Loop.reacts_of_react? (fun pause => absurd pause (ne_true_of_eq_false orderly.calm)) reacted

/-- What the thread does not move before it stops stays where it is. -/
theorem Orderly.hear (orderly : s.Orderly t) (selecting : s.phase = .selecting) {loop : Loop}
    {effect : Effect} (reacted : t.loop.react? now .shutdown = some (loop, effect)) :
    ({ s with left := s.manager.link.parked }.keep { t with loop } s.manager.link).Orderly
      { t with loop } := by
  have reacts := orderly.reacts reacted
  obtain ⟨polling, draining⟩ := reacts.drains orderly.connected
  have connected := reacts.connected_of_outside (by rw [draining]; rfl)
  refine ⟨rfl, connected.trans orderly.connected, by simp [draining, Stage.isPause],
    orderly.closing, orderly.clean, orderly.once, ?_, ?_, ?_, fun _ => rfl, fun _ => ?_, ?_⟩
  · intro handling
    cases selecting.symm.trans handling
  · simp [draining]
  · simp [draining]
  · exact orderly.owes (by simp [polling])
  · intro gone
    obtain ⟨front, back, sent, flushed⟩ := orderly.parted gone
    refine ⟨front, back, sent, fun r => ?_⟩
    have flushed := flushed r
    rw [orderly.unheard polling, List.count_nil] at flushed
    exact Nat.le_add_right_of_le flushed

/-- The request to disconnect goes out last of what had been accepted before it, up to what is left
behind. -/
theorem Orderly.flushed (orderly : s.Orderly t) (polls : s.IsPolling t)
    (empty : t.transport.pending = []) (free : t.transport.collision = false)
    {rest : List Request} (queued : s.manager.link.queued = .disconnect :: rest) :
    .disconnect ∉ s.sent ∧ ∀ r, s.before.count r ≤ s.sent.count r + s.left.count r := by
  have once := orderly.once
  rw [queued, List.count_cons_self] at once
  have unsent : .disconnect ∉ s.sent := by
    rw [← List.count_eq_zero]
    have most := asked_le_one s.call
    omega
  refine ⟨unsent, fun r => ?_⟩
  have standing : t.loop.stage ≠ .gone := by
    rcases polls with draining | ⟨polling, -⟩
    · simp [draining]
    · simp [polling]
  have parked : s.manager.link.parked.count r ≤ s.left.count r := by
    rcases polls with draining | ⟨polling, selecting, -⟩
    · rw [orderly.heard draining]
    · simp [orderly.moved polling selecting empty free]
  have owes := orderly.owes standing unsent r
  have called : s.call.isNone = false := by
    cases call : s.call with
    | some c => rfl
    | none =>
      rw [call, asked] at once
      omega
  simp only [owed, called, Bool.false_eq_true, if_false, empty, queued, List.count_nil, ahead,
    List.takeWhile_cons, ne_eq, not_true_eq_false, decide_false] at owes
  omega

/-- What is sent later does not change what went out before the request to disconnect. -/
theorem Orderly.parted_snoc (orderly : s.Orderly t) {request : Request}
    (other : request ≠ .disconnect) (gone : .disconnect ∈ s.sent ++ [request]) :
    ∃ front back, s.sent ++ [request] = front ++ .disconnect :: back ∧
      ∀ r, s.before.count r ≤ front.count r + s.left.count r := by
  have gone : .disconnect ∈ s.sent := by simpa [Ne.symm other] using gone
  obtain ⟨front, back, sent, flushed⟩ := orderly.parted gone
  exact ⟨front, back ++ [request], by simp [sent], flushed⟩

/-- Whatever is sent leaves one of its two ways. -/
theorem Orderly.send (orderly : s.Orderly t) (polls : s.IsPolling t)
    (free : t.transport.pending = [] → t.transport.collision = false) {request : Request}
    {link : Link} {transport : Transport}
    (next : s.manager.link.next? t.transport = some (request, link, transport)) (collision : Bool) :
    ({ s with sent := s.sent ++ [request], phase := .head }.keep
      { t with transport := { transport with collision } } link).Orderly
      { t with transport := { transport with collision } } := by
  unfold Link.next? at next
  split at next
  · rename_i first rest pending
    cases next
    have clean := orderly.clean
    rw [pending, List.mem_cons, not_or] at clean
    have other := Ne.symm clean.1.1
    refine ⟨rfl, orderly.connected, orderly.calm, orderly.closing, ⟨clean.1.2, clean.2⟩, ?_, nofun,
      nofun, orderly.unheard, orderly.heard, fun standing unsent r => ?_, orderly.parted_snoc other⟩
    · simpa [keep, List.count_append, other] using orderly.once
    · have owes := orderly.owes standing (fun sent => unsent (List.mem_append_left _ sent)) r
      change s.owed.count r ≤ _
      simp only [pending, List.count_cons] at owes
      simp only [keep, List.count_append, List.count_cons, List.count_nil]
      omega
  · rename_i first rest empty queued
    cases next
    by_cases parting : request = .disconnect
    · subst parting
      obtain ⟨unsent, flushed⟩ := orderly.flushed polls empty (free empty) queued
      refine ⟨rfl, orderly.connected, orderly.calm, orderly.closing, orderly.clean, ?_, nofun,
        nofun, orderly.unheard, orderly.heard, fun _ unsent => ?_, fun _ => ?_⟩
      · have once := orderly.once
        rw [queued, List.count_cons_self] at once
        simp only [keep, List.count_append, List.count_singleton_self]
        omega
      · exact absurd (List.mem_append_right _ (List.mem_singleton_self _)) unsent
      · exact ⟨s.sent, [], rfl, flushed⟩
    · refine ⟨rfl, orderly.connected, orderly.calm, orderly.closing, orderly.clean, ?_, nofun,
        nofun, orderly.unheard, orderly.heard, fun standing unsent r => ?_,
        orderly.parted_snoc parting⟩
      · simpa [keep, queued, List.count_append, parting] using orderly.once
      · have owes := orderly.owes standing (fun sent => unsent (List.mem_append_left _ sent)) r
        change s.owed.count r ≤ _
        simp only [queued, ahead_cons parting, List.count_cons] at owes
        simp only [keep, List.count_append, List.count_cons, List.count_nil]
        omega
  · cases next

/-- What else the thread polls in a session moves no request. -/
theorem Orderly.poll (orderly : s.Orderly t) {p : Polled} {loop : Loop} {effect : Effect}
    (reacted : t.loop.react? now (.polled p) = some (loop, effect)) (signal : Signal)
    (collision : Bool) :
    ({ s with phase := phaseAfter effect, manager.signal := signal }.keep
      { t with loop, transport.collision := collision } s.manager.link).Orderly
      { t with loop, transport.collision := collision } := by
  have reacts := orderly.reacts reacted
  have polling := reacts.polling rfl
  have standing : t.loop.stage ≠ .gone := by simp [polling]
  refine ⟨rfl, reacts.connected_iff.mpr (.inl orderly.connected),
    (reacts.in_session orderly.connected).2.2.1, orderly.closing, orderly.clean, orderly.once,
    fun handling => ?_, fun _ selecting => ?_, fun _ => orderly.unheard polling,
    fun draining => ?_, fun _ => orderly.owes standing, orderly.parted⟩
  · change phaseAfter effect = .handling at handling
    cases reacts with
    | observe => exact polling
    | _ => cases handling
  · change phaseAfter effect = .selecting at selecting
    unfold phaseAfter at selecting
    split at selecting <;> cases selecting
  · cases reacts with
    | establish | observe =>
      change t.loop.stage = .draining at draining
      cases polling.symm.trans draining
    | _ => cases draining

theorem Orderly.drained (orderly : s.Orderly t) {loop : Loop} {effect : Effect}
    (reacted : t.loop.react? now .drained = some (loop, effect)) :
    (s.keep { t with loop } s.manager.link).Orderly { t with loop } := by
  have reacts := orderly.reacts reacted
  cases reacts with
  | drained draining =>
    refine ⟨rfl, orderly.connected, rfl, orderly.closing, orderly.clean, orderly.once,
      fun handling => ?_, nofun, nofun, nofun, fun _ => orderly.owes (by simp [draining]),
      orderly.parted⟩
    cases draining.symm.trans (orderly.handling handling)
  | establish _ success => cases success
  | part _ farewell => cases farewell
  | lose _ _ error => cases error

/-- A thread that is gone owes nothing any more, and what the channel holds goes with it. -/
theorem Orderly.proceed (orderly : s.Orderly t) {loop : Loop} {effect : Effect}
    (reacted : t.loop.react? now .proceed = some (loop, effect)) (signal : Signal) :
    ({ s with manager.signal := signal }.keep { t with loop } s.manager.link.close).Orderly
      { t with loop } := by
  have reacts := orderly.reacts reacted
  cases reacts with
  | finish leaving =>
    refine ⟨rfl, orderly.connected, rfl, orderly.closing, orderly.clean, ?_,
      fun handling => ?_, nofun, nofun, nofun, fun standing => absurd rfl standing,
      orderly.parted⟩
    · exact (Nat.add_le_add_left (Nat.zero_le _) _).trans orderly.once
    · cases leaving.symm.trans (orderly.handling handling)
  | settle _ unconnected => exact absurd orderly.connected (ne_true_of_eq_false unconnected)
  | establish _ success => cases success
  | part _ farewell => cases farewell
  | lose _ _ error => cases error

/-- What the thread does keeps what holds throughout. -/
theorem Orderly.turn (orderly : s.Orderly t) {turn : Turn} (h : s.turn? t turn = some s') :
    ∃ t', s'.Orderly t' := by
  cases turn with
  | release =>
    simp only [turn?, orderly.connected, if_true] at h
    split at h
    · rename_i head
      cases h
      exact ⟨_, orderly.release head.1 rfl⟩
    · cases h
  | hear now =>
    simp only [turn?] at h
    split at h
    · rename_i asked
      obtain ⟨⟨loop, effect⟩, reacted, rfl⟩ := Option.map_eq_some_iff.mp h
      exact ⟨_, orderly.hear asked.1 reacted⟩
    · cases h
  | send collision =>
    simp only [turn?] at h
    split at h
    · rename_i ready
      obtain ⟨⟨request, link, transport⟩, next, rfl⟩ := Option.map_eq_some_iff.mp h
      exact ⟨_, orderly.send ready.1 ready.2 next collision⟩
    · cases h
  | poll now p collision =>
    simp only [turn?] at h
    split at h
    · obtain ⟨⟨loop, effect⟩, reacted, rfl⟩ := Option.map_eq_some_iff.mp h
      exact ⟨_, orderly.poll reacted _ collision⟩
    · cases h
  | pass collision =>
    simp only [turn?] at h
    split at h
    · rename_i draining
      cases h
      have unpolled : t.loop.stage ≠ .polling := by simp [draining]
      exact ⟨_, rfl, orderly.connected, orderly.calm, orderly.closing, orderly.clean, orderly.once,
        orderly.handling, fun polling => absurd polling unpolled, orderly.unheard, orderly.heard,
        orderly.owes, orderly.parted⟩
    · cases h
  | order request =>
    simp only [turn?] at h
    split at h
    · rename_i handling
      obtain ⟨answer, asked, rfl⟩ := Option.map_eq_some_iff.mp h
      exact ⟨t, orderly.order handling.2 handling.1 asked⟩
    · cases h
  | handled =>
    simp only [turn?] at h
    split at h
    · cases h
      exact ⟨t, orderly.thread, orderly.connected, orderly.calm, orderly.closing, orderly.clean,
        orderly.once, nofun, nofun, orderly.unheard, orderly.heard, orderly.owes, orderly.parted⟩
    · cases h
  | drained now =>
    obtain ⟨⟨loop, effect⟩, reacted, rfl⟩ := Option.map_eq_some_iff.mp h
    exact ⟨_, orderly.drained reacted⟩
  | proceed now =>
    obtain ⟨⟨loop, effect⟩, reacted, rfl⟩ := Option.map_eq_some_iff.mp h
    exact ⟨_, orderly.proceed reacted _⟩

/-- A call to disconnect makes its request once, if the channel has room, and nothing else. -/
theorem link_of_step? {m m' : Manager} {spawned : Except String Unit} {id : Nat}
    {call next : Manager.Call} (closing : call.isClosing = true)
    (h : m.step? spawned now id call = some (next, m')) :
    m'.link = m.link ∧ asked (some call) ≤ asked (some next) ∨
      m'.link = { m.link with queued := m.link.queued ++ [.disconnect] } ∧
        asked (some call) = 0 ∧ asked (some next) = 1 := by
  cases call with
  | disconnect =>
    cases h
    exact .inl ⟨rfl, Nat.zero_le _⟩
  | bye =>
    simp only [Manager.step?] at h
    split at h
    · rename_i answer
      cases h
      obtain ⟨⟨result, link⟩, sent, same⟩ := Option.map_eq_some_iff.mp answer
      obtain ⟨rfl, rfl⟩ := Prod.mk.inj same
      have sent : m.link.send? .disconnect = some (result, link) := sent
      rcases Link.answer_of_send? sent with queued | refused
      · obtain ⟨-, rfl⟩ := Prod.mk.inj queued
        exact .inr ⟨rfl, rfl, rfl⟩
      · obtain ⟨-, rfl⟩ := Prod.mk.inj refused
        exact .inl ⟨rfl, Nat.zero_le _⟩
    · cases h
      exact .inl ⟨rfl, Nat.zero_le _⟩
  | stop result | reset result =>
    cases h
    exact .inl ⟨rfl, Nat.le_refl _⟩
  | claim result =>
    obtain ⟨same, rfl⟩ := Prod.mk.inj (Option.some.inj h)
    split at same
    · exact .inl ⟨rfl, same ▸ Nat.le_refl _⟩
    · exact .inl ⟨rfl, same ▸ Nat.le_refl _⟩
  | join result =>
    simp only [Manager.step?] at h
    split at h
    · cases h
      exact .inl ⟨rfl, Nat.le_refl _⟩
    · cases h
  | returned result => cases h
  | _ => cases closing

theorem Orderly.advance (orderly : s.Orderly t) {call next : Manager.Call} {manager : Manager}
    (called : s.call = some call)
    (h : s.manager.step? (.ok ()) now 0 call = some (next, manager)) :
    Orderly { s with manager, call := some next } t := by
  have begun := orderly.closing call called
  obtain ⟨closing, thread, -, -⟩ := (Manager.steps_of_step? h).closing begun
  have once := orderly.once
  rw [called] at once
  have owes : t.loop.stage ≠ .gone → .disconnect ∉ s.sent → ∀ r, s.before.count r ≤
      s.sent.count r + t.transport.pending.count r + s.manager.link.parked.count r +
        (ahead s.manager.link.queued).count r := by
    simpa only [owed, called, Option.isNone_some, Bool.false_eq_true, if_false] using orderly.owes
  rcases link_of_step? begun h with ⟨same, more⟩ | ⟨queued, unasked, asked⟩
  · refine ⟨thread.trans orderly.thread, orderly.connected, orderly.calm, ?_, ?_, ?_,
      orderly.handling, ?_, orderly.unheard, ?_, ?_, orderly.parted⟩
    · simpa using closing
    · simpa only [same] using orderly.clean
    · simpa only [same] using once.trans more
    · simpa only [same] using orderly.moved
    · simpa only [same] using orderly.heard
    · simpa only [same, owed, Option.isNone_some, Bool.false_eq_true, if_false] using owes
  · refine ⟨thread.trans orderly.thread, orderly.connected, orderly.calm, ?_, ?_, ?_,
      orderly.handling, ?_, orderly.unheard, ?_, ?_, orderly.parted⟩
    · simpa using closing
    · simpa only [queued] using orderly.clean
    · simp only [queued, asked, List.count_append, List.count_singleton_self]
      omega
    · simpa only [queued] using orderly.moved
    · simpa only [queued] using orderly.heard
    · intro standing unsent r
      have longer := count_ahead_snoc s.manager.link.queued .disconnect r
      have owes := owes standing unsent r
      simp only [queued, owed, Option.isNone_some, Bool.false_eq_true, if_false]
      omega

theorem Orderly.step (orderly : s.Orderly t) {move : Move} (h : s.step? move = some s') :
    ∃ t', s'.Orderly t' := by
  cases move with
  | request request =>
    simp only [step?] at h
    split at h
    · cases h
    · rename_i other
      obtain ⟨answer, asked, rfl⟩ := Option.map_eq_some_iff.mp h
      exact ⟨t, orderly.request other asked⟩
  | disconnect =>
    simp only [step?] at h
    split at h
    · rename_i uncalled
      cases h
      have uncalled := Option.isNone_iff_eq_none.mp uncalled
      have once := orderly.once
      rw [uncalled] at once
      refine ⟨t, orderly.thread, orderly.connected, orderly.calm, ?_, orderly.clean, once,
        orderly.handling, orderly.moved, orderly.unheard, orderly.heard, ?_, fun gone => ?_⟩
      · simp [Manager.Call.isClosing]
      · simpa only [owed, uncalled, Option.isNone_none, if_true, ite_self] using orderly.owes
      · have none : s.sent.count .disconnect = 0 :=
          Nat.eq_zero_of_add_eq_zero_right (Nat.le_zero.mp once)
        exact absurd gone (List.count_eq_zero.mp none)
    · cases h
  | advance now =>
    obtain ⟨call, called, stepped⟩ := Option.bind_eq_some_iff.mp h
    obtain ⟨⟨next, manager⟩, advanced, rfl⟩ := Option.map_eq_some_iff.mp stepped
    exact ⟨t, orderly.advance called advanced⟩
  | turn turn =>
    obtain ⟨t', thread, turned⟩ := Option.bind_eq_some_iff.mp h
    cases orderly.thread.symm.trans thread
    exact orderly.turn turned

theorem Orderly.run {moves : List Move} (orderly : s.Orderly t) (h : s.run? moves = some s') :
    ∃ t', s'.Orderly t' := by
  refine foldlM_keeps (P := fun s => ∃ t, s.Orderly t) ?_ ⟨t, orderly⟩ h
  rintro s s' move ⟨t, orderly⟩ step
  exact orderly.step step

/-- The request to disconnect goes out after everything that had been accepted before the call,
except what callbacks had asked for and the thread had not moved when it heard that it has to
stop. -/
theorem flushes_unless_left {m : Manager} {moves : List Move} (connected : t.loop.connected = true)
    (polling : t.loop.stage = .polling)
    (clean : .disconnect ∉ t.transport.pending ++ m.link.parked ++ m.link.queued)
    (run : (start m t).run? moves = some s) (gone : .disconnect ∈ s.sent) :
    ∃ front back, s.sent = front ++ .disconnect :: back ∧ .disconnect ∉ front ∧
      s.before.Subperm (front ++ s.left) ∧ (s.left = [] → s.before.Subperm front) := by
  obtain ⟨t', orderly⟩ := (orderly_start connected polling clean).run run
  obtain ⟨front, back, sent, flushed⟩ := orderly.parted gone
  have whole : s.before.Subperm (front ++ s.left) := by
    refine List.subperm_ext_iff.mpr fun r _ => ?_
    rw [List.count_append]
    exact flushed r
  refine ⟨front, back, sent, ?_, whole, fun none => by simpa [none] using whole⟩
  have once := orderly.once
  have most := asked_le_one s.call
  rw [sent, List.count_append, List.count_cons_self] at once
  rw [← List.count_eq_zero]
  omega

/-- An established session of a manager. -/
def established : Manager :=
  { Ensemble.newManager .usual with
    signal.state := .connected, signal.outcome := .established, transport := none,
    joinable := true }

def establishedThread : NetworkThread :=
  ⟨{ Loop.fresh .usual .origin with connected := true }, .fresh, 0, some 0⟩

def report (topic : String) : Request := .publish topic [] .atLeastOnce false

/-- A message comes in and its callback publishes on some topics. -/
def answering (topics : List String) : List Move :=
  [.turn .release, .turn (.poll .origin (.ok (.incoming (.publish [0x61] [] false))) false)] ++
    topics.map (fun topic => .turn (.order (report topic))) ++ [.turn .handled]

/-- The call to disconnect, until it waits for the thread. -/
def parting : List Move := .disconnect :: List.replicate 4 (.advance .origin)

/-- What a callback and a call have asked for is on its way when the thread has to stop. -/
def inTime : List Move :=
  answering ["a"] ++ [.request (report "b")] ++ parting ++
    [.turn .release, .turn (.hear .origin)] ++ List.replicate 3 (.turn (.send false))

theorem flushes_unless_left_inTime :
    ∃ s, (start established establishedThread).run? inTime = some s ∧
      s.left = [] ∧ s.before = [report "a", report "b"] ∧
      ∃ front back, s.sent = front ++ .disconnect :: back ∧ .disconnect ∉ front ∧
        s.before.Subperm (front ++ s.left) ∧ (s.left = [] → s.before.Subperm front) := by
  obtain ⟨s, run, left, before, sent⟩ :
      ∃ s, (start established establishedThread).run? inTime = some s ∧ s.left = [] ∧
        s.before = [report "a", report "b"] ∧ s.sent = [report "a", report "b", .disconnect] :=
    ⟨_, rfl, rfl, rfl, rfl⟩
  exact ⟨s, run, left, before,
    flushes_unless_left rfl rfl (by decide) run (by rw [sent]; decide)⟩

/-- A callback has asked for two things, and only one of them is moved before the thread has to
stop. -/
def tooLate : List Move :=
  answering ["a", "b"] ++ parting ++ [.turn .release, .turn (.hear .origin)] ++
    List.replicate 2 (.turn (.send false))

theorem not_flushes_all :
    ¬ ∀ (m : Manager) (t : NetworkThread) (moves : List Move) (s : Outflow),
      t.loop.connected = true → t.loop.stage = .polling →
        .disconnect ∉ t.transport.pending ++ m.link.parked ++ m.link.queued →
          (start m t).run? moves = some s → .disconnect ∈ s.sent →
            ∃ front back, s.sent = front ++ .disconnect :: back ∧ ∀ r ∈ s.before, r ∈ front := by
  intro all
  obtain ⟨s, run, before, sent⟩ :
      ∃ s, (start established establishedThread).run? tooLate = some s ∧
        s.before = [report "a", report "b"] ∧ s.sent = [report "a", .disconnect] :=
    ⟨_, rfl, rfl, rfl⟩
  obtain ⟨front, back, split, flushed⟩ := all established establishedThread tooLate s rfl rfl
    (by decide) run (by rw [sent]; decide)
  have gone : report "b" ∈ s.sent := by
    rw [split]
    exact List.mem_append_left _ (flushed _ (by rw [before]; decide))
  rw [sent] at gone
  exact absurd gone (by decide)

end Outflow

end Courier
