import Mathlib.Data.List.Basic
import Courier.Proofs.Engine
import Courier.Proofs.Run

/-!
# Handles of one engine, lent and given back at any time

Any number of handles are asked for and given back. What is done under the lock is done step by step
here: the runtime and the count change in different steps, and between them a runtime may be up that
nobody is counted for. Whoever leaves the lock has done all of `Engine.acquire` or all of
`Engine.release`, and the count is right even in between.
-/

namespace Courier

/-- A handle, from the call that asks for it until it has been given back. -/
inductive Loan where
  /-- The call waits for the lock. -/
  | asking
  /-- It has the lock and looks whether a runtime is up. -/
  | looking
  | binding
  /-- The handle is not counted yet. -/
  | counting (handle : Handle)
  | granting (handle : Handle)
  | refusing (fault : Fault)
  | refused (fault : Fault)
  /-- Somebody has the handle. -/
  | lent (handle : Handle)
  /-- It is being given back and waits for the lock. -/
  | returning (handle : Handle)
  | discounting (handle : Handle)
  /-- The handle is counted no more; so many are left. -/
  | checking (handle : Handle) (left : Nat)
  | parting (handle : Handle)
  | returned (handle : Handle)
  deriving DecidableEq

namespace Loan

/-- With the lock comes the first step of a section. -/
def enter? : Loan → Option Loan
  | .asking => some .looking
  | .returning handle => some (.discounting handle)
  | _ => none

/-- A step of a section; `building` says whether a runtime can be built if none is up. -/
def work? (building : Except String Unit) (e : Engine) : Loan → Option (Loan × Engine)
  | .looking =>
    match e.runtime, building with
    | some _, _ => some (.binding, e)
    | none, .ok () => some (.binding, ⟨some e.built, e.count, e.built + 1⟩)
    | none, .error cause => some (.refusing (.engineFailed cause), e)
  | .binding =>
    match e.runtime with
    | some runtime => some (.counting ⟨runtime⟩, e)
    | none => some (.refusing (.engineFailed "runtime unavailable"), e)
  | .counting handle => some (.granting handle, { e with count := e.count + 1 })
  | .discounting handle =>
    let left := e.count - 1
    some (.checking handle left, { e with count := left })
  | .checking handle left =>
    some (.parting handle, { e with runtime := if left = 0 then none else e.runtime })
  | _ => none

/-- What a section came to. -/
def leave? : Loan → Option Loan
  | .granting handle => some (.lent handle)
  | .refusing fault => some (.refused fault)
  | .parting handle => some (.returned handle)
  | _ => none

def isInside : Loan → Bool
  | .looking | .binding | .counting _ | .granting _ | .refusing _ | .discounting _ | .checking _ _
  | .parting _ => true
  | _ => false

/-- The handle that somebody has, or has not given back yet. -/
def live? : Loan → Option Handle
  | .lent handle | .returning handle => some handle
  | _ => none

/-- The handle that the engine counts. -/
def counted? : Loan → Option Handle
  | .granting handle | .discounting handle => some handle
  | loan => loan.live?

/-- The handle as long as there is any trace of it. -/
def handle? : Loan → Option Handle
  | .counting handle | .checking handle _ | .parting handle => some handle
  | loan => loan.counted?

/-- How far a section has come that found the engine as it was `before`, and what it has made of the
engine. -/
inductive Within (before : Engine) : Engine → Loan → Prop where
  | looking : Within before before .looking
  | binding {building : Except String Unit} {e : Engine} {handle : Handle}
      (rest : before.acquire building = (.ok handle, { e with count := e.count + 1 })) :
      Within before e .binding
  | counting {building : Except String Unit} {e : Engine} {handle : Handle}
      (rest : before.acquire building = (.ok handle, { e with count := e.count + 1 })) :
      Within before e (.counting handle)
  | granting {building : Except String Unit} {e : Engine} {handle : Handle}
      (acquired : before.acquire building = (.ok handle, e)) : Within before e (.granting handle)
  | refusing {building : Except String Unit} {fault : Fault}
      (failed : before.acquire building = (.error fault, before)) :
      Within before before (.refusing fault)
  | discounting (handle : Handle) : Within before before (.discounting handle)
  | checking {handle : Handle} (up : before.runtime = some handle.runtime)
      (counted : 0 < before.count) :
      Within before { before with count := before.count - 1 } (.checking handle (before.count - 1))
  | parting {handle : Handle} (up : before.runtime = some handle.runtime)
      (counted : 0 < before.count) : Within before before.release (.parting handle)

variable {before e e' : Engine} {loan next : Loan} {building : Except String Unit}
  {out : List Handle}

theorem isInside_of_enter? (h : loan.enter? = some next) :
    loan.isInside = false ∧ next.isInside ∧ next.counted? = loan.counted? ∧
      Within e e next := by
  cases loan <;> cases h
  · exact ⟨rfl, rfl, rfl, .looking⟩
  · exact ⟨rfl, rfl, rfl, .discounting _⟩

theorem isInside_of_work? (h : loan.work? building e = some (next, e')) : loan.isInside := by
  cases loan <;> first | rfl | cases h

theorem isInside_of_leave? (h : loan.leave? = some next) : loan.isInside := by
  cases loan <;> first | rfl | cases h

/-- Whoever has the lock may have a handle that is not counted. -/
theorem isInside_of_uncounted {handle : Handle} (trace : loan.handle? = some handle)
    (uncounted : loan.counted? = none) : loan.isInside := by
  cases loan <;> simp_all [handle?, counted?, live?, isInside]

theorem handle?_of_counted? {handle : Handle} (counted : loan.counted? = some handle) :
    loan.handle? = some handle := by
  cases loan <;> first | exact counted | cases counted

/-- Elsewhere the handles that are counted are those that somebody has. -/
theorem counted?_eq_live? (outside : loan.isInside = false) : loan.counted? = loan.live? := by
  cases loan <;> first | rfl | cases outside

theorem counted?_of_live? {handle : Handle} (live : loan.live? = some handle) :
    loan.counted? = some handle := by
  cases loan <;> first | exact live | cases live

theorem Within.isInside (within : Within before e loan) : loan.isInside := by
  cases within <;> rfl

/-- A handle that is not counted, or not any more, is for the runtime that is up if one is. -/
theorem Within.traced (within : Within before e loan) {handle : Handle}
    (trace : loan.handle? = some handle) (uncounted : loan.counted? = none) {runtime : Nat}
    (up : e.runtime = some runtime) : handle.runtime = runtime := by
  cases within with
  | counting rest =>
    cases trace
    obtain ⟨-, same, -⟩ := Engine.acquire_eq_ok rest
    exact Option.some.inj (same.symm.trans up)
  | checking before =>
    cases trace
    exact Option.some.inj (before.symm.trans up)
  | parting before =>
    cases trace
    simp only [Engine.release] at up
    split at up
    · cases up
    · exact Option.some.inj (before.symm.trans up)
  | granting | discounting => cases uncounted
  | looking | binding | refusing => cases trace

/-- A step of a section brings it further, and the engine goes on counting who is to be counted. -/
theorem Within.work (within : Within before e loan) (backs : e.Backs (loan.counted?.toList ++ out))
    (h : loan.work? building e = some (next, e')) :
    Within before e' next ∧ e'.Backs (next.counted?.toList ++ out) := by
  cases within with
  | looking =>
    cases up : before.runtime with
    | some runtime =>
      have rest : before.acquire building =
          (.ok ⟨runtime⟩, { before with count := before.count + 1 }) := by
        simp only [Engine.acquire, up]
      simp only [work?, up] at h
      cases h
      exact ⟨.binding rest, backs⟩
    | none =>
      cases building with
      | ok =>
        have rest : before.acquire (.ok ()) =
            (.ok ⟨before.built⟩, ⟨some before.built, before.count + 1, before.built + 1⟩) := by
          simp only [Engine.acquire, up]
        simp only [work?, up] at h
        cases h
        exact ⟨.binding rest, backs.build up _ _⟩
      | error cause =>
        have failed : before.acquire (.error cause) = (.error (.engineFailed cause), before) := by
          simp only [Engine.acquire, up]
        simp only [work?, up] at h
        cases h
        exact ⟨.refusing failed, backs⟩
  | binding rest =>
    obtain ⟨-, up, -⟩ := Engine.acquire_eq_ok rest
    simp only at up
    simp only [work?, up] at h
    cases h
    exact ⟨.counting rest, backs⟩
  | counting rest =>
    obtain ⟨-, up, -⟩ := Engine.acquire_eq_ok rest
    cases h
    refine ⟨.granting rest, congrArg (· + 1) backs.count, fun other there => ?_⟩
    rcases List.mem_cons.mp there with rfl | there
    · exact up
    · exact backs.runtime other there
  | granting | refusing => cases h
  | discounting handle =>
    have up := backs.runtime handle List.mem_cons_self
    have counted : before.count = out.length + 1 := backs.count
    cases h
    refine ⟨.checking up (by omega), ?_, fun other there => ?_⟩
    · exact (congrArg (· - 1) counted).trans rfl
    · exact backs.runtime other (List.mem_cons_of_mem _ there)
  | checking up counted =>
    cases h
    refine ⟨.parting up counted, backs.count, fun other there => ?_⟩
    have left : before.count - 1 ≠ 0 := by
      rw [show before.count - 1 = out.length from backs.count]
      exact Nat.ne_of_gt (List.length_pos_of_mem there)
    simp only [if_neg left]
    exact backs.runtime other there
  | parting => cases h

end Loan

/-- A section that is over: the engine as it was found and left, and what came of it. -/
structure Passage where
  before : Engine
  after : Engine
  outcome : Loan
  deriving DecidableEq

namespace Passage

/-- Each section did what the engine does at once. -/
inductive Lawful : Passage → Prop where
  | lend {before after : Engine} {building : Except String Unit} {handle : Handle}
      (acquired : before.acquire building = (.ok handle, after)) :
      Lawful ⟨before, after, .lent handle⟩
  | refuse {before : Engine} {building : Except String Unit} {fault : Fault}
      (failed : before.acquire building = (.error fault, before)) :
      Lawful ⟨before, before, .refused fault⟩
  | takeBack {before : Engine} {handle : Handle} (up : before.runtime = some handle.runtime)
      (counted : 0 < before.count) : Lawful ⟨before, before.release, .returned handle⟩

/-- The sections came one after another, each where the one before had left the engine. -/
def Linked : Engine → List Passage → Engine → Prop
  | first, [], last => first = last
  | first, p :: rest, last => p.before = first ∧ Linked p.after rest last

theorem Linked.snoc {first last : Engine} {passages : List Passage}
    (linked : Linked first passages last) (after : Engine) (outcome : Loan) :
    Linked first (passages ++ [⟨last, after, outcome⟩]) after := by
  induction passages generalizing first with
  | nil => exact ⟨Eq.symm linked, rfl⟩
  | cons p rest ih => exact ⟨linked.1, ih linked.2⟩

variable {p : Passage} {before after : Engine} {loan next : Loan}

/-- What a section has done by the time it leaves the lock. -/
theorem lawful_of_leave? (within : Loan.Within before after loan) (h : loan.leave? = some next) :
    Lawful ⟨before, after, next⟩ ∧ next.isInside = false ∧ next.counted? = loan.counted? := by
  cases within <;> cases h
  · exact ⟨.lend ‹_›, rfl, rfl⟩
  · exact ⟨.refuse ‹_›, rfl, rfl⟩
  · exact ⟨.takeBack ‹_› ‹_›, rfl, rfl⟩

theorem Lawful.steady (lawful : p.Lawful) (steady : p.before.Steady) :
    p.after.Steady ∧ p.before.built ≤ p.after.built := by
  cases lawful with
  | lend acquired => exact steady.acquire acquired
  | refuse => exact ⟨steady, Nat.le_refl _⟩
  | takeBack => exact ⟨steady.release, Nat.le_refl _⟩

theorem Lawful.lent (lawful : p.Lawful) (steady : p.before.Steady) {handle : Handle}
    (lent : p.outcome = .lent handle) :
    p.after.count = p.before.count + 1 ∧ p.after.runtime = some handle.runtime ∧
    if p.before.count = 0 then handle.runtime = p.before.built ∧ p.after.built = p.before.built + 1
    else p.before.runtime = some handle.runtime ∧ p.after.built = p.before.built := by
  cases lawful with
  | lend acquired =>
    cases lent
    obtain ⟨count, up, -⟩ := Engine.acquire_eq_ok acquired
    exact ⟨count, up, steady.built acquired⟩
  | refuse | takeBack => cases lent

theorem Lawful.refused (lawful : p.Lawful) {fault : Fault} (refused : p.outcome = .refused fault) :
    p.before.runtime = none ∧ p.after = p.before := by
  cases lawful with
  | @refuse before building fault failed =>
    cases up : before.runtime with
    | none => exact ⟨rfl, rfl⟩
    | some runtime =>
      simp only [Engine.acquire, up] at failed
      cases failed
  | lend | takeBack => cases refused

theorem Lawful.returned (lawful : p.Lawful) {handle : Handle}
    (returned : p.outcome = .returned handle) :
    p.before.runtime = some handle.runtime ∧ p.before.count = p.after.count + 1 := by
  cases lawful with
  | takeBack up counted =>
    cases returned
    exact ⟨up, (Nat.sub_add_cancel counted).symm⟩
  | lend | refuse => cases returned

end Passage

structure Lending where
  engine : Engine
  /-- Which loan has the lock, and the engine as it found it. -/
  lock : Option (Nat × Engine)
  /-- Every handle that was ever asked for, in its place. -/
  loans : List Loan
  /-- The sections that are over, the latest last. -/
  passages : List Passage
  deriving DecidableEq

namespace Lending

def start : Lending := ⟨.idle, none, [], []⟩

inductive Move where
  /-- A handle is asked for. -/
  | ask
  /-- Whoever has a handle is done with it. -/
  | give (i : Nat)
  /-- A call takes the lock, which is free. -/
  | enter (i : Nat)
  /-- The next step under the lock; it may depend on whether a runtime can be built. -/
  | work (i : Nat) (building : Except String Unit)
  | leave (i : Nat)

/-- The state after a move, if the move can happen. -/
def step? (s : Lending) : Move → Option Lending
  | .ask => some { s with loans := s.loans ++ [.asking] }
  | .give i =>
    match s.loans[i]? with
    | some (.lent handle) => some { s with loans := s.loans.set i (.returning handle) }
    | _ => none
  | .enter i =>
    match s.lock with
    | some _ => none
    | none => (s.loans[i]?.bind Loan.enter?).map fun loan =>
      { s with lock := some (i, s.engine), loans := s.loans.set i loan }
  | .work i building => (s.loans[i]?.bind (Loan.work? building s.engine)).map fun (loan, engine) =>
    { s with engine, loans := s.loans.set i loan }
  | .leave i =>
    match s.lock with
    | none => none
    | some (_, before) => (s.loans[i]?.bind Loan.leave?).map fun loan =>
      { s with
        lock := none
        loans := s.loans.set i loan
        passages := s.passages ++ [⟨before, s.engine, loan⟩] }

def run? (moves : List Move) (s : Lending) : Option Lending := moves.foldlM step? s

/-- The engine as the latest section left it. -/
def settled (s : Lending) : Engine :=
  match s.lock with
  | none => s.engine
  | some (_, before) => before

structure Sound (s : Lending) : Prop where
  backs : s.engine.Backs (s.loans.filterMap Loan.counted?)
  within : ∀ i before, s.lock = some (i, before) →
    ∃ loan, s.loans[i]? = some loan ∧ Loan.Within before s.engine loan
  alone : ∀ (i : Nat) loan, s.loans[i]? = some loan → loan.isInside →
    ∃ before, s.lock = some (i, before)
  steady : s.settled.Steady
  lawful : ∀ p ∈ s.passages, p.before.Steady ∧ p.Lawful
  linked : Passage.Linked .idle s.passages s.settled
  older : ∀ p ∈ s.passages, ∀ handle, p.outcome = .lent handle → handle.runtime < s.settled.built
  fresh : s.passages.Pairwise fun p q => ∀ handle later, p.outcome = .lent handle →
    q.outcome = .lent later → q.before.count = 0 → handle.runtime ≠ later.runtime

variable {s s' : Lending} {move : Move} {moves : List Move} {i : Nat} {loan next : Loan}
  {e e' : Engine}

theorem sound_start : start.Sound where
  backs := ⟨rfl, fun _ there => by cases there⟩
  within _ _ held := by cases held
  alone _ _ here := by cases here
  steady := Engine.steady_idle
  lawful _ there := by cases there
  linked := rfl
  older _ there := by cases there
  fresh := .nil

/-- One loan changes, and the engine goes on counting who is to be counted. -/
theorem backs_set {loans : List Loan} (backs : e.Backs (loans.filterMap Loan.counted?))
    (here : loans[i]? = some loan)
    (deal : ∀ out, e.Backs (loan.counted?.toList ++ out) → e'.Backs (next.counted?.toList ++ out)) :
    e'.Backs ((loans.set i next).filterMap Loan.counted?) := by
  obtain ⟨others, before, after⟩ := filterMap_set Loan.counted? here
  exact (deal others (backs.perm before)).perm (after next).symm

/-- Whoever is inside is the loan that has changed, or was inside before. -/
theorem inside_set {loans : List Loan} {j : Nat} {other : Loan}
    (here : (loans.set i next)[j]? = some other) :
    j = i ∧ other = next ∨ j ≠ i ∧ loans[j]? = some other := by
  rw [List.getElem?_set] at here
  split at here
  · rename_i same
    split at here
    · cases here
      exact .inl ⟨same.symm, rfl⟩
    · cases here
  · rename_i different
    exact .inr ⟨fun same => different same.symm, here⟩

theorem getElem?_set_self_of {loans : List Loan} (here : loans[i]? = some loan) :
    (loans.set i next)[i]? = some next := by
  rw [List.getElem?_set_self (List.getElem?_eq_some_iff.mp here).1]

theorem Sound.ask (sound : s.Sound) : Sound { s with loans := s.loans ++ [.asking] } := by
  refine { sound with backs := ?_, within := fun i before held => ?_, alone := ?_ }
  · have same : (s.loans ++ [Loan.asking]).filterMap Loan.counted? =
        s.loans.filterMap Loan.counted? := by simp [Loan.counted?, Loan.live?]
    exact same ▸ sound.backs
  · obtain ⟨loan, here, within⟩ := sound.within i before held
    rw [← List.getElem?_append_left (List.getElem?_eq_some_iff.mp here).1] at here
    exact ⟨loan, here, within⟩
  · intro i loan here inside
    rw [List.getElem?_append] at here
    split at here
    · exact sound.alone i loan here inside
    · obtain rfl : loan = .asking := by
        have := List.mem_of_getElem? here
        simpa using this
      cases inside

theorem Sound.give (sound : s.Sound) {handle : Handle} (here : s.loans[i]? = some (.lent handle)) :
    Sound { s with loans := s.loans.set i (.returning handle) } := by
  have outside {loan : Loan} (there : s.loans[i]? = some loan) : loan.isInside = false := by
    cases here.symm.trans there
    rfl
  refine { sound with backs := ?_, within := fun j before held => ?_, alone := ?_ }
  · exact backs_set sound.backs here fun _ backs => backs
  · obtain ⟨loan, there, within⟩ := sound.within j before held
    have other : i ≠ j := fun same => by
      subst same
      exact Bool.false_ne_true ((outside there).symm.trans within.isInside)
    exact ⟨loan, (List.getElem?_set_ne other).trans there, within⟩
  · intro j loan there inside
    rcases inside_set there with ⟨-, rfl⟩ | ⟨-, there⟩
    · cases inside
    · exact sound.alone j loan there inside

theorem Sound.enter (sound : s.Sound) (free : s.lock = none) (here : s.loans[i]? = some loan)
    (enters : loan.enter? = some next) :
    Sound { s with lock := some (i, s.engine), loans := s.loans.set i next } := by
  obtain ⟨-, -, same, within⟩ := Loan.isInside_of_enter? (e := s.engine) enters
  have settled : s.settled = s.engine := by rw [Lending.settled, free]
  constructor
  · exact backs_set sound.backs here fun _ backs => same ▸ backs
  · intro j before held
    cases held
    exact ⟨next, getElem?_set_self_of here, within⟩
  · intro j other there inside
    rcases inside_set there with ⟨rfl, -⟩ | ⟨-, there⟩
    · exact ⟨s.engine, rfl⟩
    · obtain ⟨before, held⟩ := sound.alone j other there inside
      cases free.symm.trans held
  · exact settled ▸ sound.steady
  · exact sound.lawful
  · exact settled ▸ sound.linked
  · exact settled ▸ sound.older
  · exact sound.fresh

theorem Sound.work (sound : s.Sound) {building : Except String Unit}
    (here : s.loans[i]? = some loan) (works : loan.work? building s.engine = some (next, e')) :
    Sound { s with engine := e', loans := s.loans.set i next } := by
  obtain ⟨before, held⟩ := sound.alone i loan here (Loan.isInside_of_work? works)
  obtain ⟨same, there, within⟩ := sound.within i before held
  cases here.symm.trans there
  have settled : Lending.settled { s with engine := e', loans := s.loans.set i next } =
      s.settled := by simp only [Lending.settled, held]
  constructor
  · exact backs_set sound.backs here fun _ backs => (within.work backs works).2
  · intro j before' held'
    cases held.symm.trans held'
    obtain ⟨others, perm, -⟩ := filterMap_set Loan.counted? here
    exact ⟨next, getElem?_set_self_of here, (within.work (sound.backs.perm perm) works).1⟩
  · intro j other there inside
    rcases inside_set there with ⟨rfl, -⟩ | ⟨-, there⟩
    · exact ⟨before, held⟩
    · exact sound.alone j other there inside
  · exact settled ▸ sound.steady
  · exact sound.lawful
  · exact settled ▸ sound.linked
  · exact settled ▸ sound.older
  · exact sound.fresh

theorem Sound.leave (sound : s.Sound) {holder : Nat} {before : Engine}
    (held : s.lock = some (holder, before)) (here : s.loans[i]? = some loan)
    (leaves : loan.leave? = some next) :
    Sound { s with
      lock := none
      loans := s.loans.set i next
      passages := s.passages ++ [⟨before, s.engine, next⟩] } := by
  obtain ⟨_, own⟩ := sound.alone i loan here (Loan.isInside_of_leave? leaves)
  cases held.symm.trans own
  obtain ⟨_, there, within⟩ := sound.within i before held
  cases here.symm.trans there
  obtain ⟨lawful, outside, same⟩ := Passage.lawful_of_leave? within leaves
  have settled : s.settled = before := by rw [Lending.settled, held]
  have steady : before.Steady := settled ▸ sound.steady
  have older := settled ▸ sound.older
  obtain ⟨after, built⟩ := lawful.steady steady
  constructor
  · exact backs_set sound.backs here fun _ backs => same ▸ backs
  · intro j before' held'
    cases held'
  · intro j other there inside
    rcases inside_set there with ⟨-, rfl⟩ | ⟨different, there⟩
    · exact absurd inside (Bool.eq_false_iff.mp outside)
    · obtain ⟨_, others⟩ := sound.alone j other there inside
      cases held.symm.trans others
      exact absurd rfl different
  · exact after
  · simp only [List.forall_mem_append, List.forall_mem_singleton]
    exact ⟨sound.lawful, steady, lawful⟩
  · exact (settled ▸ sound.linked).snoc s.engine next
  · simp only [List.forall_mem_append, List.forall_mem_singleton]
    exact ⟨fun p there handle lent => Nat.lt_of_lt_of_le (older p there handle lent) built,
      fun handle lent => after.known _ (lawful.lent steady lent).2.1⟩
  · refine List.pairwise_append.mpr ⟨sound.fresh, List.pairwise_singleton _ _, ?_⟩
    intro p there q new handle later lent again nobody
    obtain rfl := List.mem_singleton.mp new
    have first := (lawful.lent steady again).2.2
    rw [if_pos nobody] at first
    exact Nat.ne_of_lt (first.1 ▸ older p there handle lent)

theorem Sound.step (sound : s.Sound) (h : s.step? move = some s') : s'.Sound := by
  cases move with
  | ask =>
    cases h
    exact sound.ask
  | give i =>
    simp only [step?] at h
    split at h
    · rename_i handle here
      cases h
      exact sound.give here
    · cases h
  | enter i =>
    simp only [step?] at h
    split at h
    · cases h
    · rename_i free
      obtain ⟨next, entered, rfl⟩ := Option.map_eq_some_iff.mp h
      obtain ⟨loan, here, enters⟩ := Option.bind_eq_some_iff.mp entered
      exact sound.enter free here enters
  | work i building =>
    obtain ⟨⟨next, engine⟩, worked, rfl⟩ := Option.map_eq_some_iff.mp h
    obtain ⟨loan, here, works⟩ := Option.bind_eq_some_iff.mp worked
    exact sound.work here works
  | leave i =>
    simp only [step?] at h
    split at h
    · cases h
    · rename_i holder before held
      obtain ⟨next, left, rfl⟩ := Option.map_eq_some_iff.mp h
      obtain ⟨loan, here, leaves⟩ := Option.bind_eq_some_iff.mp left
      exact sound.leave held here leaves

theorem sound_of_run (run : start.run? moves = some s) : s.Sound :=
  foldlM_keeps Sound.step sound_start run

/-! ## What is known at every moment -/

theorem Sound.counted (sound : s.Sound) {handle : Handle} (there : loan ∈ s.loans)
    (counted : loan.counted? = some handle) :
    0 < s.engine.count ∧ s.engine.runtime = some handle.runtime := by
  have out : handle ∈ s.loans.filterMap Loan.counted? :=
    List.mem_filterMap.mpr ⟨loan, there, counted⟩
  exact ⟨sound.backs.count ▸ List.length_pos_of_mem out, sound.backs.runtime handle out⟩

theorem Sound.traced (sound : s.Sound) {handle : Handle} (there : loan ∈ s.loans)
    (trace : loan.handle? = some handle) {runtime : Nat} (up : s.engine.runtime = some runtime) :
    handle.runtime = runtime := by
  cases counted : loan.counted? with
  | some other =>
    cases trace.symm.trans (Loan.handle?_of_counted? counted)
    exact Option.some.inj ((sound.counted there counted).2.symm.trans up)
  | none =>
    obtain ⟨i, here⟩ := List.getElem?_of_mem there
    obtain ⟨before, held⟩ := sound.alone i loan here (Loan.isInside_of_uncounted trace counted)
    obtain ⟨_, here', within⟩ := sound.within i before held
    cases here.symm.trans here'
    exact within.traced trace counted up

theorem Sound.same (sound : s.Sound) {other : Loan} {handle handle' : Handle}
    (there : loan ∈ s.loans) (there' : other ∈ s.loans) (trace : loan.handle? = some handle)
    (trace' : other.handle? = some handle') : handle = handle' := by
  cases up : s.engine.runtime with
  | some runtime =>
    have one := sound.traced there trace up
    have two := sound.traced there' trace' up
    rw [Handle.mk.injEq]
    exact one.trans two.symm
  | none =>
    have uncounted {loan : Loan} (there : loan ∈ s.loans) : loan.counted? = none := by
      cases counted : loan.counted? with
      | none => rfl
      | some handle => cases up.symm.trans (sound.counted there counted).2
    obtain ⟨i, here⟩ := List.getElem?_of_mem there
    obtain ⟨j, here'⟩ := List.getElem?_of_mem there'
    obtain ⟨_, held⟩ := sound.alone i loan here
      (Loan.isInside_of_uncounted trace (uncounted there))
    obtain ⟨_, held'⟩ := sound.alone j other here'
      (Loan.isInside_of_uncounted trace' (uncounted there'))
    cases held.symm.trans held'
    cases here.symm.trans here'
    exact Option.some.inj (trace.symm.trans trace')

/-- The handles that are out. -/
def live (s : Lending) : List Handle := s.loans.filterMap Loan.live?

theorem Sound.count (sound : s.Sound) (outside : ∀ loan ∈ s.loans, loan.isInside = false) :
    s.engine.count = s.live.length ∧ (s.engine.isRunning ↔ 0 < s.live.length) := by
  have same : s.loans.filterMap Loan.counted? = s.live :=
    List.filterMap_congr fun loan there => Loan.counted?_eq_live? (outside loan there)
  have count : s.engine.count = s.live.length := same ▸ sound.backs.count
  have settled : s.settled = s.engine := by
    unfold Lending.settled
    split
    · rfl
    · rename_i i before held
      obtain ⟨loan, here, within⟩ := sound.within i before held
      have nobody := outside loan (List.mem_of_getElem? here)
      exact absurd within.isInside (Bool.eq_false_iff.mp nobody)
  exact ⟨count, count ▸ settled ▸ sound.steady.running⟩

/-- How an engine counts the handles that it lends. -/
structure Counted (s : Lending) : Prop where
  /-- While nobody is inside, a runtime is up just if handles are out, and so many are counted. -/
  count : (∀ loan ∈ s.loans, loan.isInside = false) →
    s.engine.count = s.live.length ∧ (s.engine.isRunning ↔ 0 < s.live.length)
  /-- A handle is discounted only where the count is not zero. -/
  positive : ∀ handle, .discounting handle ∈ s.loans → 0 < s.engine.count
  /-- The runtime of a handle is up for as long as anybody has it. -/
  up : ∀ loan ∈ s.loans, ∀ handle, loan.live? = some handle →
    s.engine.runtime = some handle.runtime
  /-- All handles that there are at one time are for one runtime. -/
  same : ∀ loan ∈ s.loans, ∀ other ∈ s.loans, ∀ handle handle', loan.handle? = some handle →
    other.handle? = some handle' → handle.runtime = handle'.runtime
  /-- Nothing changes where a runtime cannot be built. -/
  refused : ∀ p ∈ s.passages, ∀ fault, p.outcome = .refused fault →
    p.before.runtime = none ∧ p.after = p.before
  /-- A runtime is built for the first handle, and the others are for the same. -/
  lent : ∀ p ∈ s.passages, ∀ handle, p.outcome = .lent handle →
    p.after.count = p.before.count + 1 ∧ p.after.runtime = some handle.runtime ∧
    if p.before.count = 0 then handle.runtime = p.before.built ∧ p.after.built = p.before.built + 1
    else p.before.runtime = some handle.runtime ∧ p.after.built = p.before.built
  returned : ∀ p ∈ s.passages, ∀ handle, p.outcome = .returned handle →
    p.before.runtime = some handle.runtime ∧ p.before.count = p.after.count + 1
  /-- A runtime is shut down where the count comes to zero, and nowhere else. -/
  stopped : ∀ p ∈ s.passages,
    p.before.isRunning ∧ ¬ p.after.isRunning ↔ 0 < p.before.count ∧ p.after.count = 0
  /-- No handle that was lent before is for the runtime that a first handle is for. -/
  fresh : s.passages.Pairwise fun p q => ∀ handle later, p.outcome = .lent handle →
    q.outcome = .lent later → q.before.count = 0 → handle.runtime ≠ later.runtime
  /-- Nobody touches the engine between two sections. -/
  linked : Passage.Linked .idle s.passages s.settled

theorem counts_of_run (run : start.run? moves = some s) : s.Counted := by
  have sound := sound_of_run run
  constructor
  · exact sound.count
  · exact fun handle there => (sound.counted there rfl).1
  · exact fun loan there handle live => (sound.counted there (Loan.counted?_of_live? live)).2
  · intro loan there other there' handle handle' trace trace'
    rw [sound.same there there' trace trace']
  · exact fun p there fault refused => (sound.lawful p there).2.refused refused
  · exact fun p there handle lent => (sound.lawful p there).2.lent (sound.lawful p there).1 lent
  · exact fun p there handle returned => (sound.lawful p there).2.returned returned
  · intro p there
    obtain ⟨steady, lawful⟩ := sound.lawful p there
    rw [steady.running, (lawful.steady steady).1.running, Nat.not_lt, Nat.le_zero]
  · exact sound.fresh
  · exact sound.linked

/-- A runtime cannot be built at first. Two calls at once then have one, the second waits for the
lock meanwhile, and a third handle is asked for while the last of the two is given back. -/
def turnover : List Move :=
  let acquire (i : Nat) (building : Except String Unit) : List Move :=
    [.enter i, .work i building, .work i building, .work i building, .leave i]
  let release (i : Nat) : List Move := [.enter i, .work i (.ok ()), .work i (.ok ()), .leave i]
  [.ask, .enter 0, .ask, .work 0 (.error "no threads"), .ask, .leave 0] ++ acquire 1 (.ok ()) ++
    acquire 2 (.error "no threads") ++ [.give 1, .give 2] ++ release 2 ++ [.ask] ++ release 1 ++
    acquire 3 (.ok ())

theorem counts_of_turnover :
    ∃ s, start.run? turnover = some s ∧ s.Counted ∧ s.engine = ⟨some 1, 1, 2⟩ ∧
      s.loans = [.refused (.engineFailed "no threads"), .returned ⟨0⟩, .returned ⟨0⟩, .lent ⟨1⟩] :=
  ⟨_, rfl, @counts_of_run _ turnover rfl, rfl, rfl⟩

end Lending

end Courier
