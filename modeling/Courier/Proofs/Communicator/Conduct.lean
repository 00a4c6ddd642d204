import Courier.Proofs.Communicator.Tenant
import Courier.Proofs.Session.Connect
import Courier.Proofs.Session.Course
import Courier.Proofs.Session.Disconnect

/-!
# What holds of a communicator at every moment

From what was noted along the way it can be told what a communicator had when it was ready, and what
is left of it when it could not be opened.
-/

namespace Courier

/-- Whether a communicator may fail to open for this reason. -/
def Fault.isOfOpening : Fault → Bool
  | .config _ | .engineFailed _ | .connectTimeout _ | .connectFailed _ | .subscribeFailed .. => true
  | _ => false

/-- The subscription under a filter is the only one there ever was, and keeps its messages. -/
def Registry.HasOnly (r : Registry) (filter : String) : Prop :=
  r.table = [(filter, 0)] ∧ ∃ box, r.made = [⟨filter, .queue box⟩]

namespace Ensemble

/-- What holds of a session at every moment, and while there is no call to disconnect. -/
structure Conducted (s : Ensemble) : Prop where
  coherent : s.Coherent
  watched : s.Watched
  phase : s.closers = [] → s.Phase s.opener

variable {s s' : Ensemble}

theorem Conducted.start {m : Manager} (unused : m.Unused) (now : Instant) :
    (start m now).Conducted where
  coherent := .start unused now
  watched := ⟨nofun, fun _ => unused.joinable⟩
  phase := phase_of_run unused (show (Ensemble.start m now).run? [] = some _ from rfl)

theorem Conducted.step (conducted : s.Conducted) (h : Advances s s') : s'.Conducted where
  coherent := conducted.coherent.step h
  watched := conducted.watched.step conducted.coherent h
  phase alone := (conducted.phase (h.alone alone)).step conducted.coherent h alone

end Ensemble

namespace Tenant

/-- The session of a communicator. -/
def session (t : Tenant) (now opened : Instant) (c : Communicator) : Ensemble :=
  ⟨c.client.manager, now, t.life.opener, t.life.closers, opened, t.underway, t.deeds⟩

/-- How far the call has come that adds the usual subscription. -/
def Adds (t : Tenant) (c : Communicator) (filter : String) : Change → Prop
  | .add f guarantee delivery => f = filter ∧ guarantee = .usual ∧ delivery = .queue .empty ∧
    c.client.registry = .empty ∧ t.accepted = []
  | .entered f guarantee => f = filter ∧ guarantee = .usual ∧ c.client.registry.HasOnly filter ∧
    t.accepted = []
  | .addRefused _ fault | .finished (.error fault) => fault.isOfOpening
  | .finished (.ok ()) => c.client.registry.HasOnly filter ∧
    t.accepted = [.subscribe filter .usual]
  | _ => False

/-- What a communicator has taken from the engine and given back. -/
def Owes (t : Tenant) : Life → Prop
  | .begun _ | .checked _ => t.acquired = 0 ∧ t.released = 0
  | .ended _ => t.acquired = t.released
  | _ => t.acquired = 1 ∧ t.released = 0

structure Orderly (now : Instant) (t : Tenant) : Prop where
  conducted : ∀ c, t.life.communicator? = some c → ∃ opened, (t.session now opened c).Conducted
  /-- A call to disconnect takes the thread away, or has done so. -/
  claimed : ∀ c call fault, t.life = .closing c call fault →
    call.isUnclaimed ∨ c.client.manager.joinable = false
  /-- Nothing is at work for a communicator that is not there. -/
  vacant : t.life.communicator? = none →
    t.underway = none ∧ ∀ thread, t.left = some thread → thread.loop.stage = .gone
  own : ∀ config, t.life.config? = some config → config = t.config
  valid : t.life.handle?.isSome ∨ (∃ config, t.life = .checked config) ∨ 0 < t.acquired →
    t.config.fault? = none
  early : t.life.isEarly → t.accepted = [] ∧ (t.life.communicator? = none → t.deeds = []) ∧
    ∀ c, t.life.communicator? = some c → c.client.registry = .empty
  adding : ∀ c, t.life = .subscribing c →
    ∃ change, t.adding = some change ∧ t.Adds c t.config.client.subscribeTopic change
  fault : ∀ fault, t.life.fault? = some fault → fault.isOfOpening
  owes : t.Owes t.life

variable {t t' : Tenant} {now : Instant} {c : Communicator}

theorem orderly_start (config : Config) : (start config).Orderly now where
  conducted _ there := by cases there
  claimed _ _ _ closing := by cases closing
  vacant _ := ⟨rfl, fun _ there => by cases there⟩
  own _ same := (Option.some.inj same).symm
  valid := by simp [start, Life.handle?]
  early _ := ⟨rfl, fun _ => rfl, fun _ there => by cases there⟩
  adding _ subscribing := by cases subscribing
  fault _ known := by cases known
  owes := ⟨rfl, rfl⟩

/-! ## What a client does with the one subscription it has -/

end Tenant

namespace Client

variable {c : Client} {now : Instant} {filter : String}

theorem registry_apply_of_empty (empty : c.registry = .empty) (effect : Effect) :
    (c.apply now effect).registry = .empty := by
  cases effect with
  | none => exact empty
  | signal e =>
    unfold apply
    dsimp only
    split <;> exact empty
  | dispatch m =>
    have nowhere : c.registry.target? m.topic = none := by rw [empty]; rfl
    simp only [apply, dispatch, nowhere]
    exact empty

/-- A mailbox that is the only one takes in messages, and nothing else happens. -/
theorem hasOnly_dispatch (only : c.registry.HasOnly filter) (m : Message) :
    (c.dispatch m).registry.HasOnly filter := by
  obtain ⟨table, box, made⟩ := only
  unfold dispatch
  split
  · exact ⟨table, box, made⟩
  · rename_i id found
    have first : id = 0 := by
      unfold Registry.target? at found
      split at found
      · rename_i named
        cases found
        have there := Registry.mem_of_find? named
        rw [table, List.mem_singleton] at there
        exact (Prod.mk.inj there).2
      · obtain ⟨entry, there, rfl⟩ := Option.map_eq_some_iff.mp found
        have there := List.mem_of_find?_eq_some there
        rw [table, List.mem_singleton] at there
        rw [there]
    subst first
    simp only [Registry.deliver, made, List.getElem?_cons_zero, Subscription.deliver]
    exact ⟨table, box.push m 0, rfl⟩

theorem hasOnly_apply (only : c.registry.HasOnly filter) (effect : Effect) :
    (c.apply now effect).registry.HasOnly filter := by
  cases effect with
  | none => exact only
  | signal e =>
    unfold apply
    dsimp only
    split <;> exact only
  | dispatch m => exact hasOnly_dispatch only m

theorem answers_subscribe {link link' : Link} {guarantee : Guarantee} {fault : Fault}
    (h : answers .caller (.subscribe filter guarantee) link = (.error fault, link')) :
    fault.isOfOpening := by
  unfold answers at h
  cases sent : link.request? .caller (.subscribe filter guarantee) with
  | none =>
    rw [sent] at h
    cases h
    rfl
  | some answer =>
    rw [sent, Option.getD_some] at h
    have sent : link.send? (.subscribe filter guarantee) = some answer := sent
    rcases Link.answer_of_send? sent with accepted | refused
    · cases h.symm.trans accepted
    · cases h.symm.trans refused
      rfl

end Client

namespace Tenant

variable {t t' : Tenant} {now : Instant} {c : Communicator}

theorem Adds.kept {change : Change} {filter : String} (adds : t.Adds c filter change)
    {c' : Communicator} (accepted : t'.accepted = t.accepted)
    (empty : c.client.registry = .empty → c'.client.registry = .empty)
    (only : c.client.registry.HasOnly filter → c'.client.registry.HasOnly filter) :
    t'.Adds c' filter change := by
  cases change with
  | add =>
    obtain ⟨f, guarantee, delivery, none, fresh⟩ := adds
    exact ⟨f, guarantee, delivery, empty none, accepted.trans fresh⟩
  | entered =>
    obtain ⟨f, guarantee, there, fresh⟩ := adds
    exact ⟨f, guarantee, only there, accepted.trans fresh⟩
  | finished result =>
    cases result with
    | ok => exact ⟨only adds.1, accepted.trans adds.2⟩
    | error => exact adds
  | _ => exact adds

/-- What changes only the client of a communicator leaves everything in order, if it goes on with
the session and with the subscription. -/
theorem Orderly.withClient (orderly : t.Orderly now) (here : t.life.communicator? = some c)
    {client : Client} {underway : Option (Loop.Deed × Effect)} {deeds : List Loop.Deed}
    (conducted : ∀ opened, (t.session now opened c).Conducted →
      Ensemble.Conducted
        ⟨client.manager, now, t.life.opener, t.life.closers, opened, underway, deeds⟩)
    (joinable : client.manager.joinable = c.client.manager.joinable)
    (registry : t.life.isReady = false →
      (c.client.registry = .empty → client.registry = .empty) ∧
        ∀ filter, c.client.registry.HasOnly filter → client.registry.HasOnly filter) :
    Orderly now { t with life := t.life.withClient client, underway, deeds } := by
  constructor
  · intro c' there
    rw [Life.communicator?_withClient, here] at there
    cases there
    obtain ⟨opened, before⟩ := orderly.conducted c here
    refine ⟨opened, ?_⟩
    simpa only [session, Life.opener_withClient, Life.closers_withClient]
      using conducted opened before
  · intro c' call fault closing
    obtain ⟨c', before, rfl⟩ := Life.closing_of_withClient closing
    cases here.symm.trans (congrArg Life.communicator? before)
    exact (orderly.claimed c call fault before).imp_right joinable.trans
  · intro vacant
    simp [here] at vacant
  · simpa only [Life.config?_withClient] using orderly.own
  · rintro (holds | ⟨config, checked⟩ | acquired)
    · rw [Life.handle?_withClient] at holds
      exact orderly.valid (.inl holds)
    · have nobody : (t.life.withClient client).communicator? = none :=
        congrArg Life.communicator? checked
      simp [here] at nobody
    · exact orderly.valid (.inr (.inr acquired))
  · intro early
    rw [Life.isEarly_withClient] at early
    obtain ⟨accepted, -, empty⟩ := orderly.early early
    refine ⟨accepted, fun nobody => by simp [here] at nobody, fun c' there => ?_⟩
    rw [Life.communicator?_withClient, here] at there
    cases there
    exact (registry (Life.not_ready_of_isEarly early)).1 (empty c here)
  · intro c' subscribing
    obtain ⟨c', before, rfl⟩ := Life.subscribing_of_withClient subscribing
    cases here.symm.trans (congrArg Life.communicator? before)
    obtain ⟨change, adding, adds⟩ := orderly.adding c before
    have kept := registry (by rw [before]; rfl)
    exact ⟨change, adding, adds.kept rfl kept.1 (kept.2 _)⟩
  · simpa only [Life.fault?_withClient] using orderly.fault
  · have owes := orderly.owes
    cases life : t.life with
    | begun | checked | held | releasing | ended => simp [life, Life.communicator?] at here
    | _ =>
      rw [life] at owes
      exact owes

/-! ## What the network thread does -/

theorem Orderly.relink (orderly : t.Orderly now) (here : t.life.communicator? = some c)
    (link : Link) : (t.withClient (c.client.withLink link)).Orderly now :=
  orderly.withClient here (fun _ before => before.step (.relink link)) rfl
    fun _ => ⟨id, fun _ => id⟩

theorem Orderly.launch (orderly : t.Orderly now) (here : t.life.communicator? = some c)
    {thread : NetworkThread} (there : c.client.manager.thread = some thread)
    (fresh : t.deeds = []) (idle : t.underway = none) :
    (t.withClient (c.client.withThread
      { thread with loop := .fresh c.client.manager.policy now })).Orderly now :=
  orderly.withClient here (fun _ before => before.step (.launch there fresh idle)) rfl
    fun _ => ⟨id, fun _ => id⟩

theorem Orderly.react (orderly : t.Orderly now) (here : t.life.communicator? = some c)
    {thread : NetworkThread} (there : c.client.manager.thread = some thread)
    (idle : t.underway = none) {stimulus : Stimulus} {loop : Loop} {effect : Effect}
    (asked : stimulus = .shutdown → thread.heard < c.client.manager.stops)
    (reacted : thread.loop.react? now stimulus = some (loop, effect)) :
    Orderly now { t with underway := some (⟨now, thread.loop, stimulus, loop⟩, effect) } := by
  have after : Orderly now
      { t with
        life := t.life.withClient c.client
        underway := some (⟨now, thread.loop, stimulus, loop⟩, effect) } :=
    orderly.withClient here (fun _ before => before.step (.react there idle asked reacted)) rfl
      fun _ => ⟨id, fun _ => id⟩
  rwa [Life.withClient_self here] at after

theorem Orderly.carryOut (orderly : t.Orderly now) (here : t.life.communicator? = some c)
    {thread : NetworkThread} (there : c.client.manager.thread = some thread) {d : Loop.Deed}
    {effect : Effect} (underway : t.underway = some (d, effect)) :
    Orderly now
      { t.withClient ((c.client.withThread { thread with loop := d.after }).apply now effect) with
        underway := none
        deeds := t.deeds ++ [d] } := by
  obtain ⟨link, manager⟩ :=
    Client.apply_manager (c.client.withThread { thread with loop := d.after }) now effect
  refine orderly.withClient here (fun _ before => ?_) (by rw [manager]; rfl) fun _ =>
    ⟨fun empty => Client.registry_apply_of_empty (c := c.client.withThread _) empty effect,
      fun _ only => Client.hasOnly_apply (c := c.client.withThread _) only effect⟩
  rw [manager]
  exact (before.step (.carryOut underway there)).step (.relink link)

/-! ## From one step of a life to the next -/

theorem Orderly.connect (orderly : t.Orderly now) {call next : Manager.Call} {client : Client}
    {spawned : Except String Unit} (life : t.life = .connecting c call)
    (steps : c.client.manager.Steps spawned now 0 call next client.manager)
    (same : client.registry = c.client.registry) :
    (t.become (.connecting { c with client } next)).Orderly now := by
  have here : t.life.communicator? = some c := by rw [life]; rfl
  constructor
  · rintro _ ⟨⟩
    obtain ⟨opened, before⟩ := orderly.conducted c here
    simp only [session, life, Life.opener, Life.closers] at before
    exact ⟨_, before.step (.connect steps)⟩
  · rintro _ _ _ ⟨⟩
  · rintro ⟨⟩
  · rintro _ ⟨⟩
    exact orderly.own c.config (by rw [life]; rfl)
  · exact fun _ => orderly.valid (.inl (by rw [life]; rfl))
  · intro _
    obtain ⟨accepted, -, empty⟩ := orderly.early (by rw [life]; rfl)
    refine ⟨accepted, by rintro ⟨⟩, ?_⟩
    rintro _ ⟨⟩
    exact same.trans (empty c here)
  · rintro _ ⟨⟩
  · rintro _ ⟨⟩
  · have owes := orderly.owes
    rw [life] at owes
    exact owes

theorem Orderly.valid_of_here (orderly : t.Orderly now) (here : t.life.communicator? = some c) :
    t.config.fault? = none :=
  orderly.valid (.inl (by rw [Life.handle?_of_communicator? here]; rfl))

theorem Orderly.owes_of_here (orderly : t.Orderly now) (here : t.life.communicator? = some c) :
    t.acquired = 1 ∧ t.released = 0 := by
  have owes := orderly.owes
  cases life : t.life with
  | begun | checked | held | releasing | ended => simp [life, Life.communicator?] at here
  | _ =>
    rw [life] at owes
    exact owes

/-- A call to connect that has failed has told why, and has left nothing at work. -/
theorem Orderly.failed (orderly : t.Orderly now) {fault : Fault}
    (life : t.life = .connecting c (.returned (.error fault))) :
    fault.isOfOpening ∧ ∃ opened, (t.session now opened c).AtRest := by
  obtain ⟨opened, conducted⟩ := orderly.conducted c (by rw [life]; rfl)
  have phase := conducted.phase (by simp only [session, life]; rfl)
  simp only [session, life, Life.opener] at phase ⊢
  exact ⟨by cases phase.1 <;> rfl, opened, phase.2⟩

/-- What is there when all calls have returned and one of them has taken the thread away. -/
theorem Orderly.atRest (orderly : t.Orderly now) (here : t.life.communicator? = some c)
    (finished : t.life.opener.isOver ∧ t.life.closers.all (·.isOver))
    (taken : t.life.opener.isWithheld ∨ c.client.manager.joinable = false) :
    ∃ opened, (t.session now opened c).AtRest := by
  obtain ⟨opened, conducted⟩ := orderly.conducted c here
  refine ⟨opened, conducted.watched.atRest conducted.coherent ?_ ?_⟩
  · exact Bool.and_eq_true_iff.mpr finished
  · exact taken.elim conducted.watched.withheld id

theorem Orderly.putAway (orderly : t.Orderly now) (here : t.life.communicator? = some c)
    (rest : ∃ opened, (t.session now opened c).AtRest) (work : Option LogSpan)
    {fault : Option Fault} (known : ∀ f, fault = some f → f.isOfOpening) :
    (t.become (.releasing c.handle work fault)).Orderly now := by
  obtain ⟨opened, rest⟩ := rest
  have left : t.thread? = c.client.manager.thread := by rw [thread?, here]
  constructor
  · rintro _ ⟨⟩
  · rintro _ _ _ ⟨⟩
  · exact fun _ => ⟨rest.idle, fun thread there => rest.thread thread (left.symm.trans there)⟩
  · rintro _ ⟨⟩
  · exact fun _ => orderly.valid_of_here here
  · rintro ⟨⟩
  · rintro _ ⟨⟩
  · exact known
  · exact orderly.owes_of_here here

/-- Once it has to do with no subscription any more, a communicator may go on with its session. -/
theorem Orderly.onward (orderly : t.Orderly now) (here : t.life.communicator? = some c)
    {life : Life} {c' : Communicator} (there : life.communicator? = some c')
    (settled : life.config? = none)
    (conducted : ∃ opened, Ensemble.Conducted
      ⟨c'.client.manager, now, life.opener, life.closers, opened, t.underway, t.deeds⟩)
    (claimed : ∀ c call fault, life = .closing c call fault →
      call.isUnclaimed ∨ c.client.manager.joinable = false)
    (fault : ∀ f, life.fault? = some f → f.isOfOpening) : (t.become life).Orderly now := by
  have valid := orderly.valid_of_here here
  have owes := orderly.owes_of_here here
  cases life with
  | abandoning | ready | closing =>
    cases there
    constructor
    · rintro _ ⟨⟩
      exact conducted
    · exact claimed
    · rintro ⟨⟩
    · rintro _ ⟨⟩
    · exact fun _ => valid
    · rintro ⟨⟩
    · rintro _ ⟨⟩
    · exact fault
    · exact owes
  | connecting | subscribing => cases settled
  | begun | checked | held | releasing | ended => cases there

/-- A communicator that has connected is told to close. -/
theorem Orderly.close (orderly : t.Orderly now) (here : t.life.communicator? = some c)
    (opener : t.life.opener = .returned (.ok ())) (closers : t.life.closers = [])
    {c' : Communicator} (same : c'.client.manager = c.client.manager) {fault : Option Fault}
    (known : ∀ f, fault = some f → f.isOfOpening) :
    (t.become (.closing c' .disconnect fault)).Orderly now := by
  obtain ⟨opened, before⟩ := orderly.conducted c here
  simp only [session, opener, closers, ← same] at before
  refine orderly.onward here rfl rfl ⟨opened, before.step .disconnect⟩ ?_ known
  rintro _ _ _ ⟨⟩
  exact .inl rfl

theorem Orderly.settle (orderly : t.Orderly now) (life : t.life = .subscribing c)
    {c' : Communicator} (same : c'.client.manager = c.client.manager) :
    (t.become (.ready c')).Orderly now := by
  have here : t.life.communicator? = some c := by rw [life]; rfl
  obtain ⟨opened, before⟩ := orderly.conducted c here
  simp only [session, life, Life.opener, Life.closers, ← same] at before
  refine orderly.onward here rfl rfl ⟨opened, before⟩ ?_ ?_
  · rintro _ _ _ ⟨⟩
  · rintro _ ⟨⟩

/-- A communicator that has connected goes on to subscribe. -/
theorem Orderly.subscribe (orderly : t.Orderly now)
    (life : t.life = .connecting c (.returned (.ok ()))) :
    (t.become (.subscribing c)).Orderly now := by
  have here : t.life.communicator? = some c := by rw [life]; rfl
  obtain ⟨accepted, -, empty⟩ := orderly.early (by rw [life]; rfl)
  have own := orderly.own c.config (by rw [life]; rfl)
  constructor
  · rintro _ ⟨⟩
    obtain ⟨opened, before⟩ := orderly.conducted c here
    simp only [session, life, Life.opener, Life.closers] at before
    exact ⟨opened, before⟩
  · rintro _ _ _ ⟨⟩
  · rintro ⟨⟩
  · rintro _ ⟨⟩
    exact own
  · exact fun _ => orderly.valid_of_here here
  · rintro ⟨⟩
  · rintro _ ⟨⟩
    exact ⟨_, rfl, by rw [own]; rfl, rfl, rfl, empty c here, accepted⟩
  · rintro _ ⟨⟩
  · exact orderly.owes_of_here here

/-- A communicator that could not connect is put away. -/
theorem Orderly.abandon (orderly : t.Orderly now) {fault : Fault}
    (life : t.life = .connecting c (.returned (.error fault))) :
    (t.become (.abandoning c (.stop (.ok ())) fault)).Orderly now := by
  have here : t.life.communicator? = some c := by rw [life]; rfl
  obtain ⟨known, -⟩ := orderly.failed life
  obtain ⟨opened, before⟩ := orderly.conducted c here
  have phase := before.phase (by simp only [session, life]; rfl)
  simp only [session, life, Life.opener, Life.closers] at before phase
  have unconnected : c.client.manager.signal.state ≠ .connected := by
    rw [show c.client.manager.signal.state = .disconnected from phase.2.state]
    exact nofun
  -- The call that puts it away skips what a call to disconnect does first.
  have after := (before.step .disconnect).step (.close (i := 0) rfl (.proceed unconnected))
  refine orderly.onward here rfl rfl ⟨opened, after⟩ ?_ ?_
  · rintro _ _ _ ⟨⟩
  · rintro _ ⟨⟩
    exact known

/-- The session of a communicator whose call to disconnect goes on. -/
theorem Orderly.closes (orderly : t.Orderly now) (here : t.life.communicator? = some c)
    {call next : Manager.Call} (closers : t.life.closers = [call]) {spawned : Except String Unit}
    {client : Client}
    (steps : c.client.manager.Steps spawned now 0 call next client.manager) :
    call.isKept ∧ ∃ opened, Ensemble.Conducted
      ⟨client.manager, now, t.life.opener, [next], opened, t.underway, t.deeds⟩ := by
  obtain ⟨opened, before⟩ := orderly.conducted c here
  have kept : call.isKept := Manager.Call.isKept_of_isClosing
    (before.coherent.closers call (by simp [session, closers]))
  have steps := steps.anyhow (Manager.Call.isEarly_of_isKept kept) (.ok ())
  simp only [session, closers] at before
  exact ⟨kept, opened, before.step (.close (i := 0) rfl steps)⟩

theorem Orderly.abandoning (orderly : t.Orderly now) {call next : Manager.Call} {client : Client}
    {fault : Fault} {spawned : Except String Unit} (life : t.life = .abandoning c call fault)
    (steps : c.client.manager.Steps spawned now 0 call next client.manager) :
    (t.become (.abandoning { c with client } next fault)).Orderly now := by
  have here : t.life.communicator? = some c := by rw [life]; rfl
  obtain ⟨-, conducted⟩ := orderly.closes here (by rw [life]; rfl) steps
  rw [life] at conducted
  refine orderly.onward here rfl rfl conducted ?_ ?_
  · rintro _ _ _ ⟨⟩
  · exact fun f known => orderly.fault f (by rw [life]; exact known)

theorem Orderly.closing (orderly : t.Orderly now) {call next : Manager.Call} {client : Client}
    {fault : Option Fault} {spawned : Except String Unit} (life : t.life = .closing c call fault)
    (steps : c.client.manager.Steps spawned now 0 call next client.manager) :
    (t.become (.closing { c with client } next fault)).Orderly now := by
  have here : t.life.communicator? = some c := by rw [life]; rfl
  obtain ⟨kept, conducted⟩ := orderly.closes here (by rw [life]; rfl) steps
  rw [life] at conducted
  refine orderly.onward here rfl rfl conducted ?_
    fun f known => orderly.fault f (by rw [life]; exact known)
  rintro _ _ _ ⟨⟩
  rcases orderly.claimed c call fault life with unclaimed | taken
  · exact steps.unclaimed unclaimed
  · exact .inr (steps.taken kept taken)

theorem filterFlaw?_of_valid {config : Config} (valid : config.fault? = none) :
    filterFlaw? config.client.subscribeTopic = none := by
  unfold Config.fault? at valid
  cases flaw : filterFlaw? config.client.subscribeTopic with
  | none => rfl
  | some flaw' =>
    rw [flaw] at valid
    cases valid

/-- What the settings accept as the usual filter, the registry accepts too; and since nothing else
can have been added yet, nothing stands in the way but the link. -/
theorem Adds.step {filter : String} {change : Change} (adds : t.Adds c filter change)
    (valid : filterFlaw? filter = none) {next : Change} {registry : Registry} {link : Link}
    {accepted : List Request} (going : ∀ result, change ≠ .finished result)
    (h : change.step (Traffic.noting (Client.answers .caller))
      (c.client.registry, c.client.manager.link, t.accepted) = (next, registry, link, accepted)) :
    Adds { t with accepted } (c.having registry link) filter next := by
  cases change with
  | add f guarantee delivery =>
    obtain ⟨rfl, rfl, rfl, empty, fresh⟩ := adds
    rw [empty, fresh] at h
    simp only [Change.step, checkFilter, valid] at h
    cases h
    exact ⟨rfl, rfl, ⟨rfl, .empty, rfl⟩, rfl⟩
  | entered f guarantee =>
    obtain ⟨rfl, rfl, only, fresh⟩ := adds
    simp only [Change.step, Traffic.noting] at h
    rcases answer : Client.answers .caller (.subscribe f .usual) c.client.manager.link with
      ⟨⟨fault⟩ | ⟨⟩, link'⟩
    · rw [answer] at h
      cases h
      exact Client.answers_subscribe answer
    · rw [answer] at h
      cases h
      exact ⟨only, by rw [fresh]; rfl⟩
  | addRefused f fault =>
    cases h
    exact adds
  | finished result => exact absurd rfl (going result)
  | _ => exact adds.elim

/-- Adding the usual subscription neither takes nor gives a handle. -/
theorem handle?_add (here : t.life.communicator? = some c) (change : Change) :
    (t.add c change).life.handle? = t.life.handle? := by
  rw [Life.handle?_of_communicator? here]
  cases change with
  | finished result => cases result <;> rfl
  | _ => rfl

theorem Orderly.add (orderly : t.Orderly now) (life : t.life = .subscribing c) {change : Change}
    (adding : t.adding = some change) : (t.add c change).Orderly now := by
  have here : t.life.communicator? = some c := by rw [life]; rfl
  have own := orderly.own c.config (by rw [life]; rfl)
  obtain ⟨_, same, adds⟩ := orderly.adding c life
  cases adding.symm.trans same
  by_cases ended : ∃ result, change = .finished result
  · obtain ⟨result, rfl⟩ := ended
    cases result with
    | ok => exact orderly.settle life rfl
    | error fault =>
      change (t.become (.closing _ .disconnect (some fault))).Orderly now
      refine orderly.close here (by rw [life]; rfl) (by rw [life]; rfl) (by rfl) ?_
      rintro _ ⟨⟩
      exact adds
  · have going (result : Except Fault Unit) : change ≠ .finished result :=
      fun same => ended ⟨result, same⟩
    rcases stepped : change.step (Traffic.noting (Client.answers .caller))
      (c.client.registry, c.client.manager.link, t.accepted) with ⟨next, registry, link, accepted⟩
    rw [add_of_step going stepped]
    constructor
    · rintro _ ⟨⟩
      obtain ⟨opened, before⟩ := orderly.conducted c here
      simp only [session, life, Life.opener, Life.closers] at before
      exact ⟨opened, before.step (.relink link)⟩
    · rintro _ _ _ ⟨⟩
    · rintro ⟨⟩
    · rintro _ ⟨⟩
      exact own
    · exact fun _ => orderly.valid_of_here here
    · rintro ⟨⟩
    · rintro _ ⟨⟩
      have valid := filterFlaw?_of_valid (orderly.valid_of_here here)
      exact ⟨next, rfl, (adds.step valid going stepped).kept rfl id id⟩
    · rintro _ ⟨⟩
    · exact orderly.owes_of_here here

theorem note_self (t : Tenant) (e : Engine) : t.note e e = t := by
  simp only [note, Nat.sub_self, Nat.add_zero]

/-- Where there is no communicator, nothing is left behind by the one before. -/
theorem Orderly.vacant_become (orderly : t.Orderly now) (nobody : t.life.communicator? = none)
    (life : Life) : (t.become life).underway = none ∧
      ∀ thread, (t.become life).left = some thread → thread.loop.stage = .gone := by
  have left : t.thread? = t.left := by rw [thread?, nobody]
  obtain ⟨idle, gone⟩ := orderly.vacant nobody
  exact ⟨idle, fun thread there => gone thread (left.symm.trans there)⟩

theorem Orderly.check (orderly : t.Orderly now) {config : Config} (life : t.life = .begun config)
    (valid : config.fault? = none) : (t.become (.checked config)).Orderly now := by
  have own := orderly.own config (by rw [life]; rfl)
  have owes := orderly.owes
  obtain ⟨accepted, unbegun, -⟩ := orderly.early (by rw [life]; rfl)
  rw [life] at owes
  constructor
  · rintro _ ⟨⟩
  · rintro _ _ _ ⟨⟩
  · exact fun _ => orderly.vacant_become (by rw [life]; rfl) _
  · rintro _ ⟨⟩
    exact own
  · exact fun _ => own ▸ valid
  · exact fun _ => ⟨accepted, fun _ => unbegun (by rw [life]; rfl), by rintro _ ⟨⟩⟩
  · rintro _ ⟨⟩
  · rintro _ ⟨⟩
  · exact owes

/-- A communicator that has taken nothing from the engine ends at once. -/
theorem Orderly.refuse (orderly : t.Orderly now) (nobody : t.life.communicator? = none)
    {fault : Fault} (known : fault.isOfOpening) (owes : t.acquired = 0 ∧ t.released = 0) :
    (t.become (.ended (some fault))).Orderly now := by
  constructor
  · rintro _ ⟨⟩
  · rintro _ _ _ ⟨⟩
  · exact fun _ => orderly.vacant_become nobody _
  · rintro _ ⟨⟩
  · rintro (holds | ⟨_, checked⟩ | acquired)
    · cases holds
    · cases checked
    · exact absurd owes.1 (Nat.ne_of_gt acquired)
  · rintro ⟨⟩
  · rintro _ ⟨⟩
  · rintro _ ⟨⟩
    exact known
  · exact owes.1.trans owes.2.symm

theorem Orderly.hold (orderly : t.Orderly now) {config : Config} (life : t.life = .checked config)
    {building : Except String Unit} {e e' : Engine} {handle : Handle}
    (acquired : e.acquire building = (.ok handle, e')) :
    ((t.become (.held config handle)).note e e').Orderly now := by
  have own := orderly.own config (by rw [life]; rfl)
  have owes := orderly.owes
  have count := (Engine.acquire_eq_ok acquired).1
  obtain ⟨accepted, unbegun, -⟩ := orderly.early (by rw [life]; rfl)
  have valid := orderly.valid (.inr (.inl ⟨config, life⟩))
  rw [life] at owes
  constructor
  · rintro _ ⟨⟩
  · rintro _ _ _ ⟨⟩
  · exact fun _ => orderly.vacant_become (by rw [life]; rfl) (.held config handle)
  · rintro _ ⟨⟩
    exact own
  · exact fun _ => valid
  · exact fun _ => ⟨accepted, fun _ => unbegun (by rw [life]; rfl), by rintro _ ⟨⟩⟩
  · rintro _ ⟨⟩
  · rintro _ ⟨⟩
  · obtain ⟨none, kept⟩ := owes
    constructor
    · change t.acquired + (e'.count - e.count) = 1
      omega
    · change t.released + (e.count - e'.count) = 0
      omega

theorem Orderly.create (orderly : t.Orderly now) {config : Config} {handle : Handle}
    (life : t.life = .held config handle) {m : Manager} (unused : m.Unused)
    (setup : Option LogSpan) :
    (t.become (.connecting ⟨config, .ofManager m setup, handle⟩ .connect)).Orderly now := by
  have own := orderly.own config (by rw [life]; rfl)
  have owes := orderly.owes
  have valid := orderly.valid (.inl (by rw [life]; rfl))
  obtain ⟨accepted, unbegun, -⟩ := orderly.early (by rw [life]; rfl)
  obtain ⟨idle, -⟩ := orderly.vacant (by rw [life]; rfl)
  rw [life] at owes
  constructor
  · rintro _ ⟨⟩
    refine ⟨now, ?_⟩
    have begun := Ensemble.Conducted.start unused now
    rwa [Ensemble.start, ← idle, ← unbegun (by rw [life]; rfl)] at begun
  · rintro _ _ _ ⟨⟩
  · rintro ⟨⟩
  · rintro _ ⟨⟩
    exact own
  · exact fun _ => valid
  · intro _
    refine ⟨accepted, by rintro ⟨⟩, ?_⟩
    rintro _ ⟨⟩
    rfl
  · rintro _ ⟨⟩
  · rintro _ ⟨⟩
  · exact owes

/-- The handle is given back last. -/
theorem Orderly.end (orderly : t.Orderly now) {handle : Handle} {work : Option LogSpan}
    {fault : Option Fault} (life : t.life = .releasing handle work fault) {e : Engine}
    (held : 0 < e.count) : ((t.become (.ended fault)).note e e.release).Orderly now := by
  have owes := orderly.owes
  have valid := orderly.valid (.inl (by rw [life]; rfl))
  have count : e.release.count = e.count - 1 := rfl
  rw [life] at owes
  constructor
  · rintro _ ⟨⟩
  · rintro _ _ _ ⟨⟩
  · exact fun _ => orderly.vacant_become (by rw [life]; rfl) (.ended fault)
  · rintro _ ⟨⟩
  · exact fun _ => valid
  · rintro ⟨⟩
  · rintro _ ⟨⟩
  · exact fun f known => orderly.fault f (by rw [life]; exact known)
  · obtain ⟨one, none⟩ := owes
    change t.acquired + (e.release.count - e.count) = t.released + (e.count - e.release.count)
    omega

/-! ## The steps of a life -/

section

variable {s : Surroundings} {e e' : Engine} {life life' : Life}

/-- A step that leaves the engine alone. -/
theorem Orderly.keep (orderly : (t.become life').Orderly now)
    (handle : life.handle? = life'.handle?) :
    ((t.become life').note e e).Orderly now ∧ e.Deals e life.handle? life'.handle? := by
  rw [note_self]
  exact ⟨orderly, handle ▸ .keep _⟩

/-- A turn in the life keeps what holds, and takes from the engine and gives back to it what it
holds. -/
theorem Orderly.turn (orderly : t.Orderly now) (here : t.life = life)
    (turns : Life.Turns s now e life life' e') (held : life.handle?.isSome → 0 < e.count) :
    ((t.become life').note e e').Orderly now ∧ e.Deals e' life.handle? life'.handle? := by
  have owes := orderly.owes
  rw [here] at owes
  cases turns with
  | refuse => exact (orderly.refuse (by rw [here]; rfl) rfl owes).keep rfl
  | check valid => exact (orderly.check here valid).keep rfl
  | acquire acquired => exact ⟨orderly.hold here acquired, .acquire acquired⟩
  | unbuilt failed =>
    obtain ⟨rfl, cause, rfl⟩ := Engine.acquire_eq_error failed
    exact (orderly.refuse (by rw [here]; rfl) rfl owes).keep rfl
  | create created => exact (orderly.create here (Manager.create_unused created) _).keep rfl
  | uncreated failed =>
    -- Settings that were accepted once are accepted by the manager too.
    have own := orderly.own _ (by rw [here]; rfl)
    have valid := orderly.valid (.inl (by rw [here]; rfl))
    rw [Manager.create, connectOptions, own, valid] at failed
    cases failed
  | connect steps same => exact (orderly.connect here steps same).keep rfl
  | connected => exact (orderly.subscribe here).keep rfl
  | unconnected => exact (orderly.abandon here).keep rfl
  | abandon fault steps => exact (orderly.abandoning here steps).keep rfl
  | abandoned c result fault =>
    have rest := orderly.atRest (by rw [here]; rfl) (by rw [here]; exact ⟨rfl, rfl⟩)
      (.inl (by rw [here]; rfl))
    refine (orderly.putAway (by rw [here]; rfl) rest _ ?_).keep rfl
    exact fun f known => orderly.fault f (by rw [here]; exact known)
  | close fault steps => exact (orderly.closing here steps).keep rfl
  | closed c result fault =>
    have taken := (orderly.claimed c _ fault here).resolve_left nofun
    have rest := orderly.atRest (by rw [here]; rfl) (by rw [here]; exact ⟨rfl, rfl⟩) (.inr taken)
    refine (orderly.putAway (by rw [here]; rfl) rest _ ?_).keep rfl
    exact fun f known => orderly.fault f (by rw [here]; exact known)
  | release handle => exact ⟨orderly.end here (held rfl), .release handle⟩

theorem advance?_of_other (other : ∀ c, t.life ≠ .subscribing c) :
    t.advance? s now e = (t.life.step? s now e).map fun (life, engine, _) =>
      ((t.become life).note e engine, engine) := by
  cases life : t.life with
  | subscribing c => exact absurd life (other c)
  | _ => simp only [advance?, life]

/-- A step is one of those that subscribe, or a turn in the life. -/
theorem Orderly.advance?_eq_some (orderly : t.Orderly now)
    (h : t.advance? s now e = some (t', e')) :
    (∃ c change, t.life = .subscribing c ∧ t.adding = some change ∧
      t' = t.add c change ∧ e' = e) ∨
    ∃ life', Life.Turns s now e t.life life' e' ∧ t' = (t.become life').note e e' := by
  by_cases subscribing : ∃ c, t.life = .subscribing c
  · obtain ⟨c, life⟩ := subscribing
    obtain ⟨change, adding, -⟩ := orderly.adding c life
    simp only [advance?, life, adding] at h
    cases h
    exact .inl ⟨c, change, life, adding, rfl, rfl⟩
  · have other (c : Communicator) : t.life ≠ .subscribing c := fun life => subscribing ⟨c, life⟩
    rw [advance?_of_other other] at h
    obtain ⟨⟨life', engine, lines⟩, stepped, same⟩ := Option.map_eq_some_iff.mp h
    obtain ⟨rfl, rfl⟩ := Prod.mk.inj same
    exact .inr ⟨life', Life.turns_of_step? other stepped, rfl⟩

theorem Orderly.advance (orderly : t.Orderly now) (held : t.life.handle?.isSome → 0 < e.count)
    (h : t.advance? s now e = some (t', e')) :
    t'.Orderly now ∧ e.Deals e' t.life.handle? t'.life.handle? := by
  obtain ⟨c, change, life, adding, rfl, rfl⟩ | ⟨life', turns, rfl⟩ := orderly.advance?_eq_some h
  · refine ⟨orderly.add life adding, ?_⟩
    rw [handle?_add (by rw [life]; rfl)]
    exact .keep _
  · exact orderly.turn rfl turns held

end

/-! ## What comes between them -/

theorem Orderly.pass (orderly : t.Orderly now) {later : Instant} (onward : now ≤ later) :
    t.Orderly later where
  conducted c here := by
    obtain ⟨opened, before⟩ := orderly.conducted c here
    exact ⟨opened, before.step (.pass onward)⟩
  claimed := orderly.claimed
  vacant := orderly.vacant
  own := orderly.own
  valid := orderly.valid
  early := orderly.early
  adding := orderly.adding
  fault := orderly.fault
  owes := orderly.owes

theorem ready_of_isReady {life : Life} (ready : life.isReady) : ∃ c, life = .ready c := by
  cases life with
  | ready c => exact ⟨c, rfl⟩
  | _ => cases ready

theorem handle?_withClient (client : Client) :
    (t.withClient client).life.handle? = t.life.handle? :=
  t.life.handle?_withClient client

theorem Orderly.act (orderly : t.Orderly now) {act : Act} (h : t.act? now act = some t') :
    t'.Orderly now ∧ t'.life.handle? = t.life.handle? := by
  cases act with
  | close =>
    simp only [act?] at h
    split at h
    · rename_i ready
      obtain ⟨c, life⟩ := ready_of_isReady ready
      cases h
      rw [life]
      exact ⟨orderly.close (by rw [life]; rfl) (by rw [life]; rfl) (by rw [life]; rfl) rfl nofun,
        rfl⟩
    · cases h
  | use registry =>
    simp only [act?] at h
    split at h
    · rename_i ready
      obtain ⟨c, here, rfl⟩ := Option.map_eq_some_iff.mp h
      refine ⟨orderly.withClient here (fun _ before => before) rfl fun other => ?_,
        handle?_withClient _⟩
      exact absurd ready (ne_true_of_eq_false other)
    · cases h
  | stir =>
    simp only [act?] at h
    split at h
    · rename_i c deadline life
      obtain ⟨woken, stirred, rfl⟩ := Option.map_eq_some_iff.mp h
      have steps : c.client.manager.Steps (.ok ()) now 0 (.asleep deadline) _ _ :=
        Manager.steps_of_wait (.inr rfl) rfl (fun w same => by cases same) stirred
      exact ⟨orderly.connect life steps rfl, by rw [life]; rfl⟩
    · cases h
  | relink link =>
    obtain ⟨c, here, rfl⟩ := Option.map_eq_some_iff.mp h
    exact ⟨orderly.relink here link, handle?_withClient _⟩
  | launch =>
    simp only [act?] at h
    split at h
    · rename_i idle
      obtain ⟨c, here, launched⟩ := Option.bind_eq_some_iff.mp h
      obtain ⟨thread, there, rfl⟩ := Option.map_eq_some_iff.mp launched
      exact ⟨orderly.launch here there (List.isEmpty_iff.mp idle.1)
        (Option.isNone_iff_eq_none.mp idle.2), handle?_withClient _⟩
    · cases h
  | react stimulus =>
    obtain ⟨c, here, decided⟩ := Option.bind_eq_some_iff.mp h
    obtain ⟨thread, there, decided⟩ := Option.bind_eq_some_iff.mp decided
    split at decided
    · rename_i idle
      obtain ⟨⟨loop, effect⟩, reacted, rfl⟩ := Option.map_eq_some_iff.mp decided
      refine ⟨orderly.react here there (Option.isNone_iff_eq_none.mp idle.1) ?_ reacted, rfl⟩
      rintro rfl
      simpa [Ensemble.isUnasked] using idle.2
    · cases decided
  | carryOut =>
    obtain ⟨⟨d, effect⟩, underway, done⟩ := Option.bind_eq_some_iff.mp h
    obtain ⟨c, here, done⟩ := Option.bind_eq_some_iff.mp done
    obtain ⟨thread, there, rfl⟩ := Option.map_eq_some_iff.mp done
    exact ⟨orderly.carryOut here there underway, handle?_withClient _⟩

/-! ## What there is in the end -/

/-- A communicator that has just become ready has the session and the subscription that it was
asked for, and nothing else. -/
theorem Orderly.ready (orderly : t.Orderly now) {s : Surroundings} {e e' : Engine}
    (h : t.advance? s now e = some (t', e')) (ready : t'.life = .ready c) :
    (∃ d ∈ t'.deeds, d.stimulus.isSuccess) ∧
      c.client.registry.HasOnly t'.config.client.subscribeTopic ∧
      t'.accepted = [.subscribe t'.config.client.subscribeTopic .usual] ∧
      t'.acquired = 1 ∧ t'.released = 0 := by
  obtain ⟨c, change, life, adding, rfl, -⟩ | ⟨life', turns, rfl⟩ := orderly.advance?_eq_some h
  · have here : t.life.communicator? = some c := by rw [life]; rfl
    obtain ⟨opened, conducted⟩ := orderly.conducted c here
    have established := conducted.phase (by simp only [session, life]; rfl)
    simp only [session, life, Life.opener] at established
    obtain ⟨_, same, adds⟩ := orderly.adding c life
    cases adding.symm.trans same
    cases change with
    | finished result =>
      cases result with
      | ok =>
        cases ready
        exact ⟨established, adds.1, adds.2, orderly.owes_of_here here⟩
      | error => cases ready
    | _ => cases ready
  · have other := turns.not_ready
    rw [show life' = .ready c from ready] at other
    cases other

end Tenant

end Courier
