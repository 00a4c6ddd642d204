import Mathlib.Data.List.Perm.Basic
import Courier.Proofs.Communicator.Conduct
import Courier.Proofs.Run

/-!
# Any number of communicators on one engine

Communicators are opened and closed at any time, each by its own steps, with others between any two
of them, and handles of the engine are also taken directly. Opening one is all or nothing, the
engine knows how many there are, and it is up as long as anybody's network thread is.
-/

namespace Courier

namespace Engine

variable {e e' : Engine} {out : List Handle}

/-- Whatever is dealt with the engine, it goes on knowing which handles are out. -/
theorem Backs.deals {before after : Option Handle} (backs : e.Backs (before.toList ++ out))
    (deals : e.Deals e' before after) : e'.Backs (after.toList ++ out) := by
  cases deals with
  | keep => exact backs
  | acquire acquired => exact backs.acquire acquired
  | release => exact backs.release

end Engine

structure Tenancy where
  engine : Engine
  now : Instant
  /-- Every communicator that was ever asked for. -/
  tenants : List Tenant
  /-- The handles that were taken directly. -/
  spare : List Handle

namespace Tenancy

def start (now : Instant) : Tenancy := ⟨.idle, now, [], []⟩

inductive Move where
  /-- The clock goes on. -/
  | pass (later : Instant)
  /-- A communicator is asked for. -/
  | enter (config : Config)
  /-- The next step in the life of one of them, where it finds certain surroundings. -/
  | advance (i : Nat) (s : Surroundings)
  /-- Something else happens to one of them. -/
  | act (i : Nat) (act : Tenant.Act)
  /-- A handle is taken directly; it depends on whether a runtime can be built. -/
  | acquire (building : Except String Unit)
  | release (i : Nat)

/-- The state after a move, if the move can happen. -/
def step? (s : Tenancy) : Move → Option Tenancy
  | .pass later => if s.now ≤ later then some { s with now := later } else none
  | .enter config => some { s with tenants := s.tenants ++ [.start config] }
  | .advance i surroundings => s.tenants[i]?.bind fun t =>
    (t.advance? surroundings s.now s.engine).map fun (t, engine) =>
      { s with engine, tenants := s.tenants.set i t }
  | .act i act => s.tenants[i]?.bind fun t =>
    (t.act? s.now act).map fun t => { s with tenants := s.tenants.set i t }
  | .acquire building =>
    match s.engine.acquire building with
    | (.ok handle, engine) => some { s with engine, spare := s.spare ++ [handle] }
    | (.error _, engine) => some { s with engine }
  | .release i =>
    if i < s.spare.length then
      some { s with engine := s.engine.release, spare := s.spare.eraseIdx i }
    else none

def run? (moves : List Move) (s : Tenancy) : Option Tenancy := moves.foldlM step? s

/-- The handles that communicators hold. -/
def held (tenants : List Tenant) : List Handle := tenants.filterMap (·.life.handle?)

structure Orderly (s : Tenancy) : Prop where
  tenants : ∀ t ∈ s.tenants, t.Orderly s.now
  backs : s.engine.Backs (held s.tenants ++ s.spare)

variable {s s' : Tenancy} {move : Move} {moves : List Move}

theorem orderly_start (now : Instant) : (start now).Orderly where
  tenants _ there := by cases there
  backs := ⟨rfl, fun _ there => by cases there⟩

/-- A step of one tenant keeps everything in order, whatever it deals with the engine. -/
theorem Orderly.set (orderly : s.Orderly) {i : Nat} {t t' : Tenant} {engine : Engine}
    (here : s.tenants[i]? = some t) (after : t'.Orderly s.now)
    (deals : s.engine.Deals engine t.life.handle? t'.life.handle?) :
    Orderly { s with engine, tenants := s.tenants.set i t' } := by
  obtain ⟨others, before, replaced⟩ := filterMap_set (·.life.handle?) here
  constructor
  · intro u there
    rcases List.mem_or_eq_of_mem_set there with other | rfl
    · exact orderly.tenants u other
    · exact after
  · have backs := orderly.backs.perm (before.append_right s.spare)
    rw [List.append_assoc] at backs
    refine (backs.deals deals).perm ?_
    rw [← List.append_assoc]
    exact ((replaced t').append_right s.spare).symm

theorem Orderly.held_of (orderly : s.Orderly) {t : Tenant} (there : t ∈ s.tenants)
    {handle : Handle} (holds : t.life.handle? = some handle) :
    0 < s.engine.count ∧ s.engine.runtime = some handle.runtime := by
  have out : handle ∈ held s.tenants ++ s.spare :=
    List.mem_append_left _ (List.mem_filterMap.mpr ⟨t, there, holds⟩)
  exact ⟨orderly.backs.count ▸ List.length_pos_of_mem out, orderly.backs.runtime handle out⟩

theorem Orderly.step (orderly : s.Orderly) (h : s.step? move = some s') : s'.Orderly := by
  cases move with
  | pass later =>
    simp only [step?] at h
    split at h
    · rename_i onward
      cases h
      exact ⟨fun t there => (orderly.tenants t there).pass onward, orderly.backs⟩
    · cases h
  | enter config =>
    cases h
    constructor
    · simp only [List.forall_mem_append, List.forall_mem_singleton]
      exact ⟨orderly.tenants, Tenant.orderly_start config⟩
    · have same : held (s.tenants ++ [.start config]) = held s.tenants := by
        simp [held, Tenant.start, Life.handle?]
      exact same ▸ orderly.backs
  | advance i surroundings =>
    obtain ⟨t, here, stepped⟩ := Option.bind_eq_some_iff.mp h
    obtain ⟨⟨t', engine⟩, advanced, rfl⟩ := Option.map_eq_some_iff.mp stepped
    have there := List.mem_of_getElem? here
    obtain ⟨after, deals⟩ := (orderly.tenants t there).advance
      (fun holds => by
        obtain ⟨handle, holds⟩ := Option.isSome_iff_exists.mp holds
        exact (orderly.held_of there holds).1) advanced
    exact orderly.set here after deals
  | act i act =>
    obtain ⟨t, here, acted⟩ := Option.bind_eq_some_iff.mp h
    obtain ⟨t', done, rfl⟩ := Option.map_eq_some_iff.mp acted
    obtain ⟨after, same⟩ := (orderly.tenants t (List.mem_of_getElem? here)).act done
    exact orderly.set here after (same ▸ .keep _)
  | acquire building =>
    simp only [step?] at h
    split at h
    · rename_i handle engine acquired
      cases h
      refine ⟨orderly.tenants, (orderly.backs.acquire acquired).perm ?_⟩
      rw [← List.append_assoc]
      exact (List.perm_append_singleton handle _).symm
    · rename_i fault engine failed
      cases h
      obtain ⟨rfl, -⟩ := Engine.acquire_eq_error failed
      exact ⟨orderly.tenants, orderly.backs⟩
  | release i =>
    simp only [step?] at h
    split at h
    · rename_i inside
      cases h
      have perm : (held s.tenants ++ s.spare).Perm
          (s.spare[i] :: (held s.tenants ++ s.spare.eraseIdx i)) :=
        ((List.getElem_cons_eraseIdx_perm inside).symm.append_left _).trans List.perm_middle
      exact ⟨orderly.tenants, (orderly.backs.perm perm).release⟩
    · cases h

/-! ## Opening a communicator -/

/-- What a communicator has that has just been opened: a session that the broker has established,
the usual subscription and no other, for which the link accepted one request, and one handle. -/
structure Opened (s : Tenancy) (t : Tenant) (c : Communicator) : Prop where
  established : ∃ d ∈ t.deeds, d.stimulus.isSuccess
  usual : c.client.registry.HasOnly t.config.client.subscribeTopic
  asked : t.accepted = [.subscribe t.config.client.subscribeTopic .usual]
  held : t.acquired = 1 ∧ t.released = 0 ∧ s.engine.runtime = some c.handle.runtime

/-- What is left of a communicator that could not be opened: no network thread, and no handle that
was not given back. With invalid settings it never had one. -/
structure Failed (t : Tenant) (fault : Fault) : Prop where
  known : fault.isOfOpening
  gone : t.underway = none ∧ ∀ thread, t.thread? = some thread → thread.loop.stage = .gone
  returned : t.acquired = t.released
  untouched : t.config.fault? ≠ none → t.acquired = 0

theorem Orderly.opened (orderly : s.Orderly) {i : Nat} {surroundings : Surroundings} {t : Tenant}
    {c : Communicator} (step : s.step? (.advance i surroundings) = some s')
    (here : s'.tenants[i]? = some t) (ready : t.life = .ready c) : s'.Opened t c := by
  obtain ⟨before, there, stepped⟩ := Option.bind_eq_some_iff.mp step
  obtain ⟨⟨after, engine⟩, advanced, rfl⟩ := Option.map_eq_some_iff.mp stepped
  have inside := (List.getElem?_eq_some_iff.mp there).1
  rw [List.getElem?_set_self inside] at here
  cases here
  obtain ⟨established, usual, asked, acquired, released⟩ :=
    (orderly.tenants before (List.mem_of_getElem? there)).ready advanced ready
  have member : t ∈ s.tenants.set i t := List.mem_set inside t
  have up := ((orderly.step step).held_of member (by rw [ready]; rfl)).2
  exact ⟨established, usual, asked, acquired, released, up⟩

theorem Orderly.failed (orderly : s.Orderly) {t : Tenant} (there : t ∈ s.tenants) {fault : Fault}
    (ended : t.life = .ended (some fault)) : Failed t fault := by
  have own := orderly.tenants t there
  have nobody : t.life.communicator? = none := by rw [ended]; rfl
  have left : t.thread? = t.left := by rw [Tenant.thread?, nobody]
  have owes := own.owes
  rw [ended] at owes
  refine ⟨own.fault fault (by rw [ended]; rfl), left ▸ own.vacant nobody, owes, fun invalid => ?_⟩
  by_contra acquired
  exact invalid (own.valid (.inr (.inr (Nat.pos_of_ne_zero acquired))))

/-- A network thread works only for a communicator that holds a handle. -/
theorem Orderly.running (orderly : s.Orderly) {t : Tenant} (there : t ∈ s.tenants)
    {thread : NetworkThread} (works : t.thread? = some thread)
    (standing : thread.loop.stage ≠ .gone) : s.engine.isRunning := by
  cases here : t.life.communicator? with
  | some c =>
    obtain ⟨-, up⟩ := orderly.held_of there (Life.handle?_of_communicator? here)
    rw [Engine.isRunning, up]
    rfl
  | none =>
    have left : t.thread? = t.left := by rw [Tenant.thread?, here]
    have gone := ((orderly.tenants t there).vacant here).2 thread (left.symm.trans works)
    exact absurd gone standing

/-- To open a communicator is all or nothing, whatever else goes on. The engine counts those that
have come to hold a handle and not given it back, and the handles that were taken directly; it is up
while anybody's network thread is. -/
theorem all_or_nothing {now : Instant} (run : (start now).run? moves = some s) :
    (∀ i surroundings s' t c, s.step? (.advance i surroundings) = some s' →
      s'.tenants[i]? = some t → t.life = .ready c → s'.Opened t c) ∧
    (∀ t ∈ s.tenants, ∀ fault, t.life = .ended (some fault) → Failed t fault) ∧
    s.engine.count = (s.tenants.filter (·.life.handle?.isSome)).length + s.spare.length ∧
    ∀ t ∈ s.tenants, ∀ thread, t.thread? = some thread → thread.loop.stage ≠ .gone →
      s.engine.isRunning := by
  have orderly := foldlM_keeps Orderly.step (orderly_start now) run
  refine ⟨fun _ _ _ _ _ step here ready => orderly.opened step here ready,
    fun _ there _ ended => orderly.failed there ended, ?_,
    fun _ there _ works standing => orderly.running there works standing⟩
  rw [orderly.backs.count, List.length_append, held, List.length_filterMap_eq_countP,
    List.countP_eq_length_filter]

def plain : Config := ⟨{ subscribeTopic := "in", publishTopic := "out" }, {}⟩

def calm : Surroundings := ⟨[], "", .ok (), .ok ()⟩

/-- A communicator is asked for with invalid settings, and another is opened beside it, up to its
last step. -/
def neighbours : List Move :=
  [.enter { plain with broker.port := 0 }, .enter plain, .advance 0 calm] ++
    List.replicate 8 (.advance 1 calm) ++
    [.act 1 .launch, .advance 1 calm,
      .act 1 (.react (.polled (.ok (.incoming (.connAck false .success))))), .act 1 .carryOut] ++
    List.replicate 4 (.advance 1 calm)

theorem all_or_nothing_neighbours :
    ∃ s s' t c u fault, (start .origin).run? neighbours = some s ∧
      s.step? (.advance 1 calm) = some s' ∧ s'.tenants[1]? = some t ∧ t.life = .ready c ∧
      s'.Opened t c ∧ u ∈ s.tenants ∧ u.life = .ended (some fault) ∧ Failed u fault ∧
      s.engine.count = 1 := by
  obtain ⟨s, run, s', t, c, u, fault, step, here, ready, first, ended, count⟩ :
      ∃ s, (start .origin).run? neighbours = some s ∧ ∃ s' t c u fault,
        s.step? (.advance 1 calm) = some s' ∧ s'.tenants[1]? = some t ∧ t.life = .ready c ∧
        s.tenants[0]? = some u ∧ u.life = .ended (some fault) ∧ s.engine.count = 1 :=
    ⟨_, rfl, _, _, _, _, _, rfl, rfl, rfl, rfl, rfl, rfl⟩
  have there := List.mem_of_getElem? first
  obtain ⟨opened, failed, -⟩ := all_or_nothing run
  exact ⟨s, s', t, c, u, fault, run, step, here, ready, opened 1 calm s' t c step here ready, there,
    ended, failed u there fault ended, count⟩

end Tenancy

end Courier
