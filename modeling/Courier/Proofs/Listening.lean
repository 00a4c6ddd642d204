import Courier.CommandLine
import Courier.Proofs.Traffic.Mail

/-!
# A listener and its filters

The listener adds the usual filter and then, if it is another one, its own, and prints what comes
under its own. The network thread looks messages up and hands them over meanwhile.
-/

namespace Courier.CommandLine

open Traffic (Routing)

/-- How far the listener has come. -/
inductive Stage where
  /-- These filters are still to be added. -/
  | setup (rest : List String)
  | adding (call : Change) (rest : List String)
  | looking
  /-- A call for a message waits at a subscription. -/
  | waiting (id : SubscriptionId)
  | over (result : Except Fault Unit)

/-- The filters that have still to be entered. -/
def Stage.left : Stage → List String
  | .setup rest => rest
  | .adding (.add f _ _) rest => f :: rest
  | .adding _ rest => rest
  | _ => []

/-- Whether a filter could not be added. -/
def Stage.failed : Stage → Bool
  | .adding (.finished (.error _)) _ | .over (.error _) => true
  | _ => false

/-- Whether all filters are added. -/
def Stage.isListening : Stage → Bool
  | .looking | .waiting _ | .over (.ok ()) => true
  | _ => false

/-- Whether the call that waits does so at this subscription. -/
def Stage.awaits (id : SubscriptionId) : Stage → Bool
  | .waiting other => other = id
  | _ => false

/-- The listener at its work and the network thread at its own. -/
structure Hearing (σ : Type) where
  registry : Registry
  link : σ
  listener : Listening
  stage : Stage
  /-- The message that the network thread has looked up and not handed over yet. -/
  matched : Option (SubscriptionId × Message)
  /-- What became of each message at the table, the latest last; no move depends on it. -/
  routed : List Routing

namespace Hearing

variable {σ : Type}

/-- The filters that the listener adds, in order. -/
def plan (usual filter : String) : List String :=
  if filter = usual then [filter] else [usual, filter]

def start (usual filter : String) (limit : Option UInt64) (link : σ) : Hearing σ :=
  ⟨.empty, link, ⟨filter, limit, []⟩, .setup (plan usual filter), none, []⟩

/-- What the listener makes of the answer to a call for a message. -/
def hear (s : Hearing σ) (result : Except Fault Message) : Hearing σ :=
  match s.listener.hear result with
  | .ok listener => { s with listener, stage := .looking }
  | .error fault => { s with stage := .over (.error fault) }

/-- An event of the listener's call at a subscription. -/
def mail? (s : Hearing σ) (id : SubscriptionId) (now : Instant) (e : Mailbox.Event) :
    Option (Hearing σ) := do
  let sub ← s.registry.made[id]?
  let (after, answers) ← sub.mail? now e
  let s := { s with registry.made := s.registry.made.set id after }
  match answers with
  | [] => some { s with stage := .waiting id }
  | answer :: _ => some (s.hear (answer.message.elim (.error (.receiveTimeout sub.filter)) .ok))

/-- The next step of the listener, unless it waits. -/
def proceed? (link : LinkAnswers σ) (s : Hearing σ) (now : Instant) : Option (Hearing σ) :=
  match s.stage with
  | .setup [] => some { s with stage := .looking }
  | .setup (f :: rest) => some { s with stage := .adding (.add f .usual (.queue .empty)) rest }
  | .adding (.finished (.ok ())) rest => some { s with stage := .setup rest }
  | .adding (.finished (.error fault)) _ => some { s with stage := .over (.error fault) }
  | .adding call rest =>
    let (call, registry, link) := call.step link (s.registry, s.link)
    some { s with registry, link, stage := .adding call rest }
  | .looking =>
    if s.listener.wantsMore then
      match s.registry.get s.listener.filter with
      | .error fault => some (s.hear (.error fault))
      | .ok id => s.mail? id now (.arrive ⟨0, now.after? pollInterval⟩)
    else some { s with stage := .over (.ok ()) }
  | .waiting _ | .over _ => none

inductive Move (σ : Type) where
  | proceed (now : Instant)
  /-- The call that waits runs: it was woken, it was not, or its time is up. -/
  | wake (now : Instant) (e : Mailbox.Event)
  | route (m : Message)
  | handOver (chosen : Nat)
  | relink (link : σ)
  | shuffle (table : List (String × SubscriptionId))

/-- Whether it is the listener that moves. -/
def Move.isOwn : Move σ → Bool
  | .proceed _ | .wake .. => true
  | _ => false

/-- The state after a move, if the move can happen. -/
def step? (link : LinkAnswers σ) (s : Hearing σ) : Move σ → Option (Hearing σ)
  | .proceed now => s.proceed? link now
  | .wake now e =>
    match s.stage with
    | .waiting id => if e.isWaking then s.mail? id now e else none
    | _ => none
  | .route m =>
    if s.matched.isNone then
      let target := s.registry.target? m.topic
      some { s with
        matched := target.map (·, m)
        routed := s.routed ++ [⟨m, s.registry.table.map (·.1), target⟩] }
    else none
  | .handOver chosen =>
    s.matched.map fun (id, m) =>
      { s with
        registry.made := s.registry.made.modify id fun sub => sub.accept m chosen
        matched := none }
  | .relink l => some { s with link := l }
  | .shuffle table =>
    if table.isPerm s.registry.table then some { s with registry.table := table } else none

def run? (link : LinkAnswers σ) (moves : List (Move σ)) (s : Hearing σ) : Option (Hearing σ) :=
  moves.foldlM (step? link) s

variable {link : LinkAnswers σ} {l : σ} {usual : String} {s s' : Hearing σ} {moves : List (Move σ)}

/-! ## Filters are added one after another -/

/-- The filters of all subscriptions, in the order in which they were made. -/
def names (s : Hearing σ) : List String := s.registry.made.map (·.filter)

/-- A call that adds a filter to a queue, by the filters of the subscriptions made so far. -/
inductive Adds : List String → Change → Prop where
  | asked (names : List String) (f : String) : Adds names (.add f .usual (.queue .empty))
  | entered (names : List String) (f : String) : Adds (names ++ [f]) (.entered f .usual)
  | refused (names : List String) (f : String) (fault : Fault) :
    Adds (names ++ [f]) (.addRefused f fault)
  | finished (names : List String) (result : Except Fault Unit) : Adds names (.finished result)

/-- The subscriptions are those of the plan, as far as it was carried out. -/
structure SetUp (usual : String) (s : Hearing σ) : Prop where
  sound : s.registry.Sound
  among : ∀ f, s.registry.contains f = true → f ∈ plan usual s.listener.filter
  adds : ∀ call rest, s.stage = .adding call rest → Adds s.names call
  sofar : s.stage.failed = false → s.names ++ s.stage.left = plan usual s.listener.filter ∧
    ∀ f, s.registry.contains f = true ↔ f ∈ s.names
  failed : s.stage.failed = true → s.registry.contains s.listener.filter = false

theorem plan_nodup (usual filter : String) : (plan usual filter).Nodup := by
  rw [plan]
  split
  · simp
  · rename_i other
    simpa using Ne.symm other

theorem plan_getLast? (usual filter : String) : (plan usual filter).getLast? = some filter := by
  rw [plan]
  split <;> rfl

/-- The listener's own filter is the last one to be entered. -/
theorem plan_unfinished {filter : String} {names left : List String} (some : left ≠ [])
    (h : names ++ left = plan usual filter) : filter ∉ names := by
  have last := plan_getLast? usual filter
  rw [← h, List.getLast?_append_of_ne_nil _ some] at last
  have distinct := plan_nodup usual filter
  rw [← h, List.nodup_append] at distinct
  exact fun early => distinct.2.2 filter early filter (List.mem_of_getLast? last) rfl

theorem plan_finished {filter f : String} {names : List String}
    (h : names ++ [f] = plan usual filter) : f = filter := by
  have last := plan_getLast? usual filter
  rw [← h, List.getLast?_append_of_ne_nil _ (by simp)] at last
  exact Option.some.inj last

theorem setUp_start (usual filter : String) (limit : Option UInt64) (l : σ) :
    (start usual filter limit l).SetUp usual where
  sound := Registry.sound_empty
  among := by simp [start, Registry.empty, Registry.contains, Registry.find?]
  adds := by simp [start]
  sofar := by
    intro _
    refine ⟨rfl, fun f => ?_⟩
    simp [start, names, Registry.empty, Registry.contains, Registry.find?]
  failed := by simp [start, Stage.failed]

/-- The link, the messages and what the network thread does have nothing to do with it. -/
theorem SetUp.aside (setUp : s.SetUp usual) (registry : s'.registry = s.registry)
    (stage : s'.stage = s.stage) (filter : s'.listener.filter = s.listener.filter) :
    s'.SetUp usual := by
  constructor
  · exact registry ▸ setUp.sound
  · rw [registry, filter]
    exact setUp.among
  · rw [stage, names, registry]
    exact setUp.adds
  · rw [stage, names, registry, filter]
    exact setUp.sofar
  · rw [stage, registry, filter]
    exact setUp.failed

/-- Filters are no longer added, and those that were are in use. -/
theorem SetUp.settled (setUp : s.SetUp usual) {stage : Stage}
    (adding : ∀ call rest, stage ≠ .adding call rest) (left : stage.left = s.stage.left)
    (failed : stage.failed = s.stage.failed) :
    SetUp usual { s with stage } :=
  ⟨setUp.sound, setUp.among, fun call rest h => absurd h (adding call rest),
    fun h => left ▸ setUp.sofar (failed ▸ h), fun h => setUp.failed (failed ▸ h)⟩

/-- Subscriptions may come to hold other messages. -/
theorem SetUp.kept (setUp : s.SetUp usual) {made : List Subscription}
    (same : made.map (·.filter) = s.registry.made.map (·.filter)) :
    SetUp usual { s with registry.made := made } := by
  refine ⟨setUp.sound.kept same, setUp.among, ?_, ?_, setUp.failed⟩
  · intro call rest h
    rw [names, same]
    exact setUp.adds call rest h
  · intro h
    rw [names, same]
    exact setUp.sofar h

theorem SetUp.adding (setUp : s.SetUp usual) (link : LinkAnswers σ) {call : Change}
    {rest : List String} (stage : s.stage = .adding call rest)
    (unfinished : ∀ result, call ≠ .finished result) :
    SetUp usual { s with
      registry := (call.step link (s.registry, s.link)).2.1
      link := (call.step link (s.registry, s.link)).2.2
      stage := .adding (call.step link (s.registry, s.link)).1 rest } := by
  have going : s.stage.failed = false := by
    rw [stage]
    cases call with
    | finished result => exact absurd rfl (unfinished result)
    | _ => rfl
  obtain ⟨sofar, inUse⟩ := setUp.sofar going
  have adds := setUp.adds call rest stage
  rw [stage] at sofar
  generalize hn : s.names = made at adds
  cases adds with
  | asked _ f =>
    have new : f ∉ s.names := by
      have distinct := plan_nodup usual s.listener.filter
      rw [← sofar, List.nodup_append] at distinct
      exact fun early => distinct.2.2 f early f List.mem_cons_self rfl
    have free : s.registry.contains f = false := Bool.eq_false_iff.mpr fun h => new ((inUse f).mp h)
    have early := plan_unfinished (by simp [Stage.left]) sofar
    cases valid : filterFlaw? f with
    | some flaw =>
      simp only [Change.step, checkFilter, valid]
      refine ⟨setUp.sound, setUp.among, ?_, by simp [Stage.failed], fun _ => ?_⟩
      · rintro _ _ ⟨⟩
        exact .finished _ _
      · exact Bool.eq_false_iff.mpr fun h => early ((inUse _).mp h)
    | none =>
      have named := (Registry.contains_eq_false_iff _ f).mp free
      simp only [Change.step, checkFilter, valid, Registry.enter, free]
      have entered := Registry.contains_entered s.registry f
      refine ⟨setUp.sound.entered _ named valid, ?_, ?_, fun _ => ⟨?_, ?_⟩, by simp [Stage.failed]⟩
      · intro g taken
        rw [← sofar]
        rw [if_neg Bool.false_ne_true, entered g _ named, Bool.or_eq_true,
          decide_eq_true_eq] at taken
        rcases taken with rfl | old
        · simp [Stage.left]
        · exact List.mem_append_left _ ((inUse g).mp old)
      · rintro _ _ ⟨⟩
        simpa [names] using Adds.entered s.names f
      · simpa [names, Stage.left] using sofar
      · intro g
        rw [if_neg Bool.false_ne_true, entered g _ named, Bool.or_eq_true, inUse g]
        simp [names, or_comm]
  | entered before f =>
    rcases answer : link (.subscribe f .usual) s.link with ⟨_ | _, l⟩ <;>
      simp only [Change.step, answer]
    · refine ⟨setUp.sound, setUp.among, ?_, fun _ => ⟨sofar, inUse⟩, by simp [Stage.failed]⟩
      rintro _ _ ⟨⟩
      exact hn.symm ▸ Adds.refused before f _
    · refine ⟨setUp.sound, setUp.among, ?_, fun _ => ⟨sofar, inUse⟩, by simp [Stage.failed]⟩
      rintro _ _ ⟨⟩
      exact .finished _ _
  | refused before f fault =>
    simp only [Change.step]
    refine ⟨setUp.sound.erase f, ?_, ?_, by simp [Stage.failed], fun _ => ?_⟩
    · intro g taken
      rw [Registry.contains_erase, Bool.and_eq_true] at taken
      exact setUp.among g taken.2
    · rintro _ _ ⟨⟩
      exact .finished _ _
    · -- the filter that was refused is the listener's own, or that one was never entered
      rw [Registry.contains_erase, Bool.and_eq_false_iff]
      cases rest with
      | nil =>
        simp only [hn, Stage.left, List.append_nil] at sofar
        exact .inl (by simp [plan_finished sofar])
      | cons g rest =>
        have early := plan_unfinished (by simp [Stage.left]) sofar
        exact .inr (Bool.eq_false_iff.mpr fun h => early ((inUse _).mp h))
  | finished _ result => exact absurd rfl (unfinished result)

end Hearing

end Courier.CommandLine
