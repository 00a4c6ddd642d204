import Mathlib.Data.List.Sort
import Mathlib.Data.String.Basic
import Courier.Proofs.Routing
import Courier.Proofs.Span
import Courier.Proofs.Traffic.Agreement

/-!
# One act after another

A registry over a recording link, used by one caller whose callbacks ask for nothing. Adding and
removing change the registry before the link is asked and change it back when it refuses; with
nothing in between, a failed act leaves no trace, and what is in use can be read off the requests
that the link accepted.
-/

namespace Courier

open Traffic (verdicts endsSubscribed)

/-- How a new subscription takes its messages when its callback asks for nothing. -/
def Mode.delivery : Mode → Delivery
  | .queue => .queue .empty
  | .callback => .callback fun _ => []

/-- Nobody waits for a message, and no message makes a callback ask for something. -/
def Subscription.IsIdle (s : Subscription) : Prop :=
  match s.delivery with
  | .queue box => box.asleep = [] ∧ box.woken = []
  | .callback handler => ∀ m, handler m = []

theorem Mode.isIdle (mode : Mode) (f : String) : Subscription.IsIdle ⟨f, mode.delivery⟩ := by
  cases mode with
  | queue => exact ⟨rfl, rfl⟩
  | callback => exact fun _ => rfl

/-- Where nobody waits a message wakes nobody. -/
theorem Subscription.IsIdle.deliver {s : Subscription} (idle : s.IsIdle) (m : Message) :
    (s.deliver m).1.IsIdle ∧ (s.deliver m).2 = [] := by
  obtain ⟨f, ⟨pending, asleep, woken⟩ | handler⟩ := s
  · obtain ⟨rfl, rfl⟩ : asleep = [] ∧ woken = [] := idle
    exact ⟨⟨rfl, rfl⟩, rfl⟩
  · exact ⟨idle, idle m⟩

namespace Subscription

/-- All that asking for a message without waiting may come to. -/
inductive Asked (f : String) : Subscription → Except Fault Message → Subscription → Prop where
  | wrongMode (handler : Handler) :
    Asked f ⟨f, .callback handler⟩ (.error (.callbackMode f)) ⟨f, .callback handler⟩
  | nothing : Asked f ⟨f, .queue ⟨[], [], []⟩⟩ (.error (.receiveTimeout f)) ⟨f, .queue ⟨[], [], []⟩⟩
  | message (m : Message) (rest : List Message) :
    Asked f ⟨f, .queue ⟨m :: rest, [], []⟩⟩ (.ok m) ⟨f, .queue ⟨rest, [], []⟩⟩

theorem IsIdle.take? {s : Subscription} (idle : s.IsIdle) (now : Instant) :
    ∃ result s', s.take? now (some .zero) = some (result, s') ∧ Asked s.filter s result s' := by
  obtain ⟨f, ⟨pending, asleep, woken⟩ | handler⟩ := s
  · obtain ⟨rfl, rfl⟩ : asleep = [] ∧ woken = [] := idle
    cases pending with
    | nil =>
      refine ⟨_, _, ?_, .nothing⟩
      rw [take?_empty, Option.bind_eq_bind, Option.bind_some, Instant.after?_zero, Option.map_some]
    | cons m rest => exact ⟨_, _, take?_waiting f m rest now _, .message m rest⟩
  · exact ⟨_, _, rfl, .wrongMode handler⟩

theorem Asked.filter {f : String} {s s' : Subscription} {result : Except Fault Message}
    (asked : Asked f s result s') : s.filter = f ∧ s'.filter = f := by
  cases asked <;> exact ⟨rfl, rfl⟩

theorem Asked.isIdle {f : String} {s s' : Subscription} {result : Except Fault Message}
    (asked : Asked f s result s') (idle : s.IsIdle) : s'.IsIdle := by
  cases asked with
  | wrongMode handler => exact idle
  | nothing => exact ⟨rfl, rfl⟩
  | message m rest => exact ⟨rfl, rfl⟩

/-- A message that is not there leaves the subscription as it was. -/
theorem Asked.kept {f : String} {s s' : Subscription} {fault : Fault}
    (asked : Asked f s (.error fault) s') :
    s' = s ∧ (fault = .callbackMode f ∨ fault = .receiveTimeout f) := by
  cases asked with
  | wrongMode handler => exact ⟨rfl, .inl rfl⟩
  | nothing => exact ⟨rfl, .inr rfl⟩

end Subscription

namespace Registry

theorem erase_entered {r : Registry} {f : String} (free : r.find? f = none) (id : SubscriptionId)
    (made : List Subscription) : erase ⟨r.table ++ [(f, id)], made⟩ f = ⟨r.table, made⟩ := by
  have others : r.table.filter (·.1 ≠ f) = r.table := by
    refine List.filter_eq_self.mpr fun entry h => decide_eq_true ?_
    rintro rfl
    exact notMem_of_find? free (List.mem_map_of_mem h)
  rw [erase, List.filter_append, others]
  simp

theorem mem_filters (r : Registry) (f : String) : f ∈ r.filters ↔ r.contains f = true := by
  rw [filters, (List.mergeSort_perm _ _).mem_iff, contains]
  constructor
  · intro h
    rw [← Option.isNone_eq_false_iff]
    by_contra free
    exact notMem_of_find? (Option.isNone_iff_eq_none.mp (Bool.eq_true_of_not_eq_false free)) h
  · intro h
    obtain ⟨id, found⟩ := Option.isSome_iff_exists.mp h
    exact List.mem_map_of_mem (mem_of_find? found)

theorem Sound.filters_ordered {r : Registry} (sound : r.Sound) : r.filters.Pairwise (· < ·) := by
  have sorted : r.filters.Pairwise fun a b => decide (a ≤ b) = true :=
    List.pairwise_mergeSort (by simpa using fun a b c => le_trans) (by simpa using le_total) _
  have distinct : r.filters.Nodup :=
    (List.mergeSort_perm _ _).nodup_iff.mpr sound.distinct
  refine (sorted.and distinct).imp fun ⟨le, ne⟩ => lt_of_le_of_ne (of_decide_eq_true le) ne

/-- The filters are listed in one order only, whatever order the table has. -/
theorem Sound.filters_eq {r r' : Registry} (sound : r.Sound) (sound' : r'.Sound)
    (named : ∀ f, r'.find? f = r.find? f) : r'.filters = r.filters := by
  refine sound'.filters_ordered.eq_of_mem_iff sound.filters_ordered fun f => ?_
  rw [mem_filters, mem_filters, contains, contains, named]

end Registry

namespace Rehearsal

/-- What the caller may do. A subscription can still be asked by one who got it before it was
removed, and the table may list its entries in any order. -/
inductive Act where
  | add (filter : String) (guarantee : Guarantee) (mode : Mode)
  | remove (filter : String)
  | dispatch (m : Message)
  /-- Asks the subscription in use under a filter for a message that is there already. -/
  | receive (filter : String) (now : Instant)
  | ask (id : SubscriptionId) (now : Instant)
  | publish (topic : String) (payload : List UInt8) (guarantee : Guarantee) (retain : Bool)
  | refuse (on : Bool)
  | attach
  | shuffle (table : List (String × SubscriptionId))

inductive Reply where
  | done
  | taken (found : Bool)
  | message (m : Message)

/-- The answer to an act, and the rehearsal afterwards; `none` if the act never returns. -/
def act? (steps : Nat) (s : Rehearsal) : Act → Option (Except Fault Reply × Rehearsal)
  | .add f g mode =>
    let (result, s) := s.change (.add f g mode.delivery)
    some (result.map fun _ => .done, s)
  | .remove f =>
    let (result, s) := s.change (.remove f)
    some (result.map fun _ => .done, s)
  | .dispatch m => (s.dispatch? steps m).map fun (found, s) => (.ok (.taken found), s)
  | .receive f now =>
    (s.registry.receive? f now (some .zero)).map fun (result, registry) =>
      (result.map .message, { s with registry })
  | .ask id now =>
    (s.registry.take? id now (some .zero)).map fun (result, registry) =>
      (result.map .message, { s with registry })
  | .publish topic payload g retain =>
    (s.publishThrough? steps topic payload g retain).map fun (result, s) =>
      (result.map fun _ => .done, s)
  | .refuse on => some (.ok .done, { s with link.refusing := on })
  | .attach => some (.ok .done, { s with link.attached := true })
  | .shuffle table =>
    if table.isPerm s.registry.table then some (.ok .done, { s with registry.table := table })
    else none

/-- One act after another, whatever their answers are. -/
def run? (steps : Nat) (acts : List Act) (s : Rehearsal) : Option Rehearsal :=
  acts.foldlM (fun s act => (s.act? steps act).map (·.2)) s

/-- Whether the caller can do this at all. -/
def Allows (s : Rehearsal) : Act → Prop
  | .ask id _ => id < s.registry.made.length
  | .shuffle table => table.isPerm s.registry.table = true
  | _ => True

/-- The request that an act makes of the link. -/
def Act.request? : Act → Option Request
  | .add f g _ => some (.subscribe f g)
  | .remove f => some (.unsubscribe f)
  | .publish topic payload g retain => some (.publish topic payload g retain)
  | _ => none

/-- The faults that an act may answer with. -/
def Act.MayFail : Act → Fault → Prop
  | .add f .., fault =>
    (∃ reason, fault = .invalidTopic f reason) ∨ fault = .alreadySubscribed f ∨
      ∃ text, fault = .subscribeFailed f text
  | .remove f, fault => fault = .notSubscribed f ∨ ∃ text, fault = .subscribeFailed f text
  | .receive f _, fault =>
    fault = .notSubscribed f ∨ fault = .callbackMode f ∨ fault = .receiveTimeout f
  | .ask .., fault => ∃ f, fault = .callbackMode f ∨ fault = .receiveTimeout f
  | .publish topic .., fault => ∃ text, fault = .publishFailed topic text
  | _, _ => False

/-! ## What an act comes to -/

/-- The rehearsal once the link has accepted a request. -/
def noted (s : Rehearsal) (request : Request) : Rehearsal :=
  { s with link.accepted := s.link.accepted ++ [request] }

/-- The rehearsal with a subscription as it is after it has given or taken a message. -/
def holding (s : Rehearsal) (id : SubscriptionId) (sub : Subscription) : Rehearsal :=
  { s with registry.made := s.registry.made.set id sub }

/-- A message that is routed and handed over, or dropped; a callback may see it. -/
inductive Routed (s : Rehearsal) (m : Message) : Bool → Rehearsal → Prop where
  | dropped (away : s.registry.target? m.topic = none) : Routed s m false s
  | delivered (id : SubscriptionId) (sub : Subscription) (seen : List Sight)
      (target : s.registry.target? m.topic = some id) (here : s.registry.made[id]? = some sub) :
    Routed s m true { s.holding id (sub.deliver m).1 with seen }

/-- All that an act may come to. -/
inductive Outcome (s : Rehearsal) : Act → Except Fault Reply → Rehearsal → Prop where
  | flawed (f : String) (g : Guarantee) (mode : Mode) (flaw : TopicFlaw)
      (found : filterFlaw? f = some flaw) :
    Outcome s (.add f g mode) (.error (.invalidTopic f flaw.reason)) s
  | inUse (f : String) (g : Guarantee) (mode : Mode) (valid : filterFlaw? f = none)
      (taken : s.registry.contains f = true) :
    Outcome s (.add f g mode) (.error (.alreadySubscribed f)) s
  /-- The subscription was made all the same, but nobody can name it. -/
  | addRefused (f : String) (g : Guarantee) (mode : Mode) (text : String)
      (valid : filterFlaw? f = none) (free : s.registry.find? f = none)
      (refusing : s.link.refusing = true) :
    Outcome s (.add f g mode) (.error (.subscribeFailed f text))
      { s with registry.made := s.registry.made ++ [⟨f, mode.delivery⟩] }
  | added (f : String) (g : Guarantee) (mode : Mode) (valid : filterFlaw? f = none)
      (free : s.registry.find? f = none) (accepting : s.link.refusing = false) :
    Outcome s (.add f g mode) (.ok .done)
      { s.noted (.subscribe f g) with
        registry := ⟨s.registry.table ++ [(f, s.registry.made.length)],
          s.registry.made ++ [⟨f, mode.delivery⟩]⟩ }
  | absent (f : String) (free : s.registry.find? f = none) :
    Outcome s (.remove f) (.error (.notSubscribed f)) s
  /-- The entry is taken out and put back, as the last one of the table. -/
  | removeRefused (f : String) (id : SubscriptionId) (text : String)
      (named : s.registry.find? f = some id) (refusing : s.link.refusing = true) :
    Outcome s (.remove f) (.error (.subscribeFailed f text))
      { s with registry := (s.registry.erase f).putBack f id }
  | removed (f : String) (id : SubscriptionId) (named : s.registry.find? f = some id)
      (accepting : s.link.refusing = false) :
    Outcome s (.remove f) (.ok .done)
      { s.noted (.unsubscribe f) with registry := s.registry.erase f }
  | dispatched (m : Message) (found : Bool) (s' : Rehearsal) (routed : Routed s m found s') :
    Outcome s (.dispatch m) (.ok (.taken found)) s'
  | unknown (f : String) (now : Instant) (free : s.registry.find? f = none) :
    Outcome s (.receive f now) (.error (.notSubscribed f)) s
  | received (f : String) (now : Instant) (id : SubscriptionId) (sub sub' : Subscription)
      (result : Except Fault Message) (named : s.registry.find? f = some id)
      (here : s.registry.made[id]? = some sub) (asked : sub.Asked f result sub') :
    Outcome s (.receive f now) (result.map .message) (s.holding id sub')
  | asked (id : SubscriptionId) (now : Instant) (f : String) (sub sub' : Subscription)
      (result : Except Fault Message) (here : s.registry.made[id]? = some sub)
      (asked : sub.Asked f result sub') :
    Outcome s (.ask id now) (result.map .message) (s.holding id sub')
  | publishRefused (topic : String) (payload : List UInt8) (g : Guarantee) (retain : Bool)
      (text : String) (refusing : s.link.refusing = true) :
    Outcome s (.publish topic payload g retain) (.error (.publishFailed topic text)) s
  | published (topic : String) (payload : List UInt8) (g : Guarantee) (retain : Bool)
      (s' : Rehearsal) (accepting : s.link.refusing = false)
      (back : s' = s.noted (.publish topic payload g retain) ∨ ∃ found,
        Routed (s.noted (.publish topic payload g retain)) ⟨topic, payload⟩ found s') :
    Outcome s (.publish topic payload g retain) (.ok .done) s'
  | refuse (on : Bool) : Outcome s (.refuse on) (.ok .done) { s with link.refusing := on }
  | attach : Outcome s .attach (.ok .done) { s with link.attached := true }
  | shuffled (table : List (String × SubscriptionId)) (perm : table.Perm s.registry.table) :
    Outcome s (.shuffle table) (.ok .done) { s with registry.table := table }

/-- What holds between the acts. -/
structure Orderly (s : Rehearsal) : Prop where
  sound : s.registry.Sound
  idle : ∀ sub ∈ s.registry.made, sub.IsIdle
  inUse : ∀ f, s.registry.contains f = endsSubscribed (verdicts f s.link.accepted)

theorem orderly_fresh : fresh.Orderly where
  sound := Registry.sound_empty
  idle := by simp [fresh, Registry.empty]
  inUse := fun _ => rfl

variable {s s' : Rehearsal}

theorem Orderly.made_of_find? (orderly : s.Orderly) {f : String} {id : SubscriptionId}
    (named : s.registry.find? f = some id) :
    ∃ sub, s.registry.made[id]? = some sub ∧ sub.filter = f := by
  obtain ⟨d, made⟩ := orderly.sound.made_of_find? named
  exact ⟨_, made, rfl⟩

theorem add_outcome (s : Rehearsal) (f : String) (g : Guarantee) (mode : Mode) :
    Outcome s (.add f g mode) ((s.change (.add f g mode.delivery)).1.map fun _ => .done)
      (s.change (.add f g mode.delivery)).2 := by
  cases valid : filterFlaw? f with
  | some flaw =>
    simpa [change, Change.run, Change.step, checkFilter, valid, Except.map] using
      Outcome.flawed (s := s) f g mode flaw valid
  | none =>
    cases named : s.registry.find? f with
    | some id =>
      have taken : s.registry.contains f = true := by rw [Registry.contains, named]; rfl
      simpa [change, Change.run, Change.step, checkFilter, valid, Registry.enter, taken,
        Except.map] using Outcome.inUse (s := s) f g mode valid taken
    | none =>
      have free := (Registry.contains_eq_false_iff _ f).mpr named
      cases refusing : s.link.refusing with
      | true =>
        have outcome := Outcome.addRefused f g mode "Mock subscribe failure" valid named refusing
        simpa [change, Change.run, Change.step, checkFilter, valid, Registry.enter, free,
          Recorder.answer, refusing, Registry.erase_entered named, Except.map] using outcome
      | false =>
        have outcome := Outcome.added f g mode valid named refusing
        simpa [change, Change.run, Change.step, checkFilter, valid, Registry.enter, free,
          Recorder.answer, refusing, Except.map, noted] using outcome

theorem remove_outcome (s : Rehearsal) (f : String) :
    Outcome s (.remove f) ((s.change (.remove f)).1.map fun _ => .done)
      (s.change (.remove f)).2 := by
  cases named : s.registry.find? f with
  | none =>
    simpa [change, Change.run, Change.step, Registry.takeOut, named, Except.map] using
      Outcome.absent (s := s) f named
  | some id =>
    cases refusing : s.link.refusing with
    | true =>
      have outcome := Outcome.removeRefused f id "Mock unsubscribe failure" named refusing
      simpa [change, Change.run, Change.step, Registry.takeOut, named, Recorder.answer, refusing,
        Except.map] using outcome
    | false =>
      have outcome := Outcome.removed f id named refusing
      simpa [change, Change.run, Change.step, Registry.takeOut, named, Recorder.answer, refusing,
        Except.map, noted] using outcome

/-- The callback of an idle subscription gives rise to no further task. -/
theorem settle?_deliver {id : SubscriptionId} {sub : Subscription}
    (here : s.registry.made[id]? = some sub) (idle : sub.IsIdle) (m : Message) (steps : Nat) :
    ∃ seen, settle? (steps + 1) [.deliver id m] s =
      some { s.holding id (sub.deliver m).1 with seen } := by
  have silent := (idle.deliver m).2
  simp only [settle?, step, Registry.deliver_of_made here, here, silent, List.map_nil]
  obtain ⟨f, box | handler⟩ := sub
  · exact ⟨s.seen, by simp [settle?, holding]⟩
  · exact ⟨s.seen ++ [.received f m], by simp [settle?, see, holding]⟩

theorem Orderly.dispatch? (orderly : s.Orderly) (m : Message) (steps : Nat) :
    ∃ found s', s.dispatch? (steps + 1) m = some (found, s') ∧ Routed s m found s' := by
  cases target : s.registry.target? m.topic with
  | none => exact ⟨_, _, by rw [Rehearsal.dispatch?, target], .dropped target⟩
  | some id =>
    obtain ⟨f, named, -⟩ := orderly.sound.takes_of_target? target
    obtain ⟨sub, here, -⟩ := orderly.made_of_find? named
    have idle := orderly.idle sub (List.mem_of_getElem? here)
    obtain ⟨seen, settled⟩ := settle?_deliver here idle m steps
    refine ⟨_, _, ?_, .delivered id sub seen target here⟩
    rw [Rehearsal.dispatch?, target]
    simp only [settled, Option.map_some]

theorem Orderly.take? (orderly : s.Orderly) {id : SubscriptionId} {sub : Subscription}
    (here : s.registry.made[id]? = some sub) (now : Instant) :
    ∃ result sub', s.registry.take? id now (some .zero) =
        some (result, (s.holding id sub').registry) ∧
      sub.Asked sub.filter result sub' := by
  obtain ⟨result, sub', taken, asked⟩ :=
    (orderly.idle sub (List.mem_of_getElem? here)).take? now
  exact ⟨result, sub', by simp [Registry.take?, here, taken, Rehearsal.holding], asked⟩

theorem Orderly.noted (orderly : s.Orderly) (request : Request)
    (silent : ∀ f, request.verdict? f = none) : (s.noted request).Orderly where
  sound := orderly.sound
  idle := orderly.idle
  inUse := by
    intro f
    simp [Rehearsal.noted, silent f, orderly.inUse f]

theorem Orderly.publishThrough? (orderly : s.Orderly) (topic : String) (payload : List UInt8)
    (g : Guarantee) (retain : Bool) (steps : Nat) :
    ∃ result s', s.publishThrough? (steps + 1) topic payload g retain = some (result, s') ∧
      Outcome s (.publish topic payload g retain) (result.map fun _ => .done) s' := by
  cases refusing : s.link.refusing with
  | true =>
    refine ⟨.error (.publishFailed topic "Mock publish failure"), _, ?_,
      .publishRefused topic payload g retain _ refusing⟩
    simp [Rehearsal.publishThrough?, publish, Recorder.answer, refusing, settle?]
  | false =>
    have accepted : Recorder.answer (.publish topic payload g retain) s.link =
        (.ok (), (s.noted (.publish topic payload g retain)).link) := by
      simp only [Recorder.answer, refusing, Rehearsal.noted]
    have orderly' := orderly.noted (.publish topic payload g retain) fun f => rfl
    cases back : if s.link.attached then s.registry.target? topic else none with
    | none =>
      refine ⟨.ok (), _, ?_, .published topic payload g retain _ refusing (.inl rfl)⟩
      simp only [Rehearsal.publishThrough?, publish, accepted, Rehearsal.noted, back, settle?,
        Option.toList_none, List.map_nil, Option.map_some]
    | some id =>
      have target : s.registry.target? topic = some id := by
        split at back
        · exact back
        · cases back
      obtain ⟨f, named, -⟩ := orderly.sound.takes_of_target? target
      obtain ⟨sub, here, -⟩ := orderly.made_of_find? named
      have idle := orderly.idle sub (List.mem_of_getElem? here)
      obtain ⟨seen, settled⟩ := settle?_deliver (s := s.noted (.publish topic payload g retain))
        here idle ⟨topic, payload⟩ steps
      refine ⟨.ok (), _, ?_, .published topic payload g retain _ refusing
        (.inr ⟨true, .delivered id sub seen target here⟩)⟩
      rw [← Option.map_some (f := fun s => (Except.ok (), s)), ← settled]
      simp only [Rehearsal.publishThrough?, publish, accepted, Rehearsal.noted, back,
        Option.toList_some, List.map_cons, List.map_nil]

/-- Every act that the caller can do returns. -/
theorem Orderly.act? (orderly : s.Orderly) (steps : Nat) {act : Act} (allowed : s.Allows act) :
    ∃ reply s', s.act? (steps + 1) act = some (reply, s') ∧ Outcome s act reply s' := by
  cases act with
  | add f g mode => exact ⟨_, _, rfl, add_outcome s f g mode⟩
  | remove f => exact ⟨_, _, rfl, remove_outcome s f⟩
  | dispatch m =>
    obtain ⟨found, s', done, routed⟩ := orderly.dispatch? m steps
    exact ⟨_, _, by rw [Rehearsal.act?, done, Option.map_some], .dispatched m found s' routed⟩
  | receive f now =>
    cases named : s.registry.find? f with
    | none =>
      exact ⟨_, _, by simp [Rehearsal.act?, Registry.receive?, Registry.get, named, Except.map],
        .unknown f now named⟩
    | some id =>
      obtain ⟨sub, here, rfl⟩ := orderly.made_of_find? named
      obtain ⟨result, sub', taken, asked⟩ := orderly.take? here now
      exact ⟨_, _, by simp [Rehearsal.act?, Registry.receive?, Registry.get, named, taken]; rfl,
        .received sub.filter now id sub sub' result named here asked⟩
  | ask id now =>
    have here := List.getElem?_eq_getElem (show id < s.registry.made.length from allowed)
    obtain ⟨result, sub', taken, asked⟩ := orderly.take? here now
    exact ⟨_, _, by rw [Rehearsal.act?, taken]; rfl, .asked id now _ _ sub' result here asked⟩
  | publish topic payload g retain =>
    obtain ⟨result, s', done, outcome⟩ := orderly.publishThrough? topic payload g retain steps
    exact ⟨_, _, by rw [Rehearsal.act?, done, Option.map_some], outcome⟩
  | refuse on => exact ⟨_, _, rfl, .refuse on⟩
  | attach => exact ⟨_, _, rfl, .attach⟩
  | shuffle table =>
    have perm : table.isPerm s.registry.table = true := allowed
    exact ⟨_, _, by rw [Rehearsal.act?, if_pos perm], .shuffled table (List.isPerm_iff.mp perm)⟩

theorem allows_of_act? {steps : Nat} {act : Act} {reply : Except Fault Reply}
    (h : s.act? steps act = some (reply, s')) : s.Allows act := by
  cases act with
  | ask id now =>
    by_contra outside
    have gone := List.getElem?_eq_none (Nat.le_of_not_lt outside)
    simp [act?, Registry.take?, gone] at h
  | shuffle table =>
    rw [act?] at h
    split at h
    · assumption
    · cases h
  | _ => trivial

/-! ## What every act keeps -/

theorem Orderly.holding (orderly : s.Orderly) {id : SubscriptionId} {sub sub' : Subscription}
    (here : s.registry.made[id]? = some sub) (same : sub'.filter = sub.filter)
    (idle : sub'.IsIdle) (seen : List Sight) : Orderly { s.holding id sub' with seen } where
  sound := orderly.sound.kept (filters_set here same)
  idle := by
    intro other h
    rcases List.mem_or_eq_of_mem_set h with old | rfl
    · exact orderly.idle other old
    · exact idle
  inUse := orderly.inUse

theorem Orderly.routed (orderly : s.Orderly) {m : Message} {found : Bool}
    (routed : Routed s m found s') : s'.Orderly := by
  cases routed with
  | dropped away => exact orderly
  | delivered id sub seen target here =>
    have idle := orderly.idle sub (List.mem_of_getElem? here)
    exact orderly.holding here (sub.took_deliver m).1 (idle.deliver m).1 seen

theorem Orderly.outcome (orderly : s.Orderly) {act : Act} {reply : Except Fault Reply}
    (outcome : Outcome s act reply s') : s'.Orderly := by
  have made_snoc (f : String) (mode : Mode) :
      ∀ sub ∈ s.registry.made ++ [⟨f, mode.delivery⟩], sub.IsIdle := by
    intro sub h
    rcases List.mem_append.mp h with old | new
    · exact orderly.idle sub old
    · rw [List.mem_singleton.mp new]
      exact mode.isIdle f
  cases outcome with
  | flawed f g mode flaw found => exact orderly
  | inUse f g mode valid taken => exact orderly
  | addRefused f g mode text valid free refusing =>
    have sound := (orderly.sound.entered mode.delivery free valid).erase f
    rw [Registry.erase_entered free] at sound
    exact ⟨sound, made_snoc f mode, orderly.inUse⟩
  | added f g mode valid free accepting =>
    refine ⟨orderly.sound.entered _ free valid, made_snoc f mode, fun h => ?_⟩
    rw [Registry.contains_entered _ f h _ free, orderly.inUse h]
    by_cases same : h = f <;> simp [Rehearsal.noted, Request.verdict?, same]
  | absent f free => exact orderly
  | removeRefused f id text named refusing =>
    refine ⟨(orderly.sound.erase f).putBack ?_, ?_, fun h => ?_⟩
    · exact orderly.sound.made_of_find? named
    · simpa using orderly.idle
    · have taken : s.registry.contains f = true := by rw [Registry.contains, named]; rfl
      by_cases same : h = f
      · simp [same, ← orderly.inUse f, taken]
      · simp [same, ← orderly.inUse h]
  | removed f id named accepting =>
    refine ⟨orderly.sound.erase f, orderly.idle, fun h => ?_⟩
    rw [Registry.contains_erase, orderly.inUse h]
    by_cases same : h = f <;> simp [Rehearsal.noted, Request.verdict?, same]
  | dispatched m found s' routed => exact orderly.routed routed
  | unknown f now free => exact orderly
  | received f now id sub sub' result named here asked =>
    have idle := asked.isIdle (orderly.idle sub (List.mem_of_getElem? here))
    exact orderly.holding here (asked.filter.2.trans asked.filter.1.symm) idle s.seen
  | asked id now f sub sub' result here asked =>
    have idle := asked.isIdle (orderly.idle sub (List.mem_of_getElem? here))
    exact orderly.holding here (asked.filter.2.trans asked.filter.1.symm) idle s.seen
  | publishRefused topic payload g retain text refusing => exact orderly
  | published topic payload g retain s' accepting back =>
    have kept := orderly.noted (.publish topic payload g retain) fun f => rfl
    rcases back with rfl | ⟨found, routed⟩
    · exact kept
    · exact kept.routed routed
  | refuse on => exact ⟨orderly.sound, orderly.idle, orderly.inUse⟩
  | attach => exact ⟨orderly.sound, orderly.idle, orderly.inUse⟩
  | shuffled table perm =>
    have sound := orderly.sound.permuted perm
    refine ⟨sound, orderly.idle, fun f => ?_⟩
    rw [Registry.contains, sound.find?_permuted orderly.sound perm]
    exact orderly.inUse f

theorem orderly_of_run {steps : Nat} {acts : List Act} (init : s.Orderly)
    (run : s.run? (steps + 1) acts = some s') : s'.Orderly := by
  refine foldlM_keeps (fun {s s' act} orderly h => ?_) init run
  obtain ⟨⟨reply, next⟩, acted, rfl⟩ := Option.map_eq_some_iff.mp h
  obtain ⟨_, _, done, outcome⟩ := orderly.act? steps (allows_of_act? acted)
  cases acted.symm.trans done
  exact orderly.outcome outcome

/-! ## Acts that fail, and what the requests tell -/

/-- No trace of a failed act: a new subscription, if one was made, has no name. -/
structure Unchanged (s s' : Rehearsal) : Prop where
  filters : s'.registry.filters = s.registry.filters
  /-- Every filter names the subscription that it named. -/
  named : ∀ f, s'.registry.find? f = s.registry.find? f
  /-- Every subscription has the mode and the messages that it had. -/
  made : s.registry.made <+: s'.registry.made
  link : s'.link = s.link
  seen : s'.seen = s.seen

theorem Unchanged.refl (s : Rehearsal) : Unchanged s s :=
  ⟨rfl, fun _ => rfl, List.prefix_rfl, rfl, rfl⟩

theorem holding_self {id : SubscriptionId} {sub : Subscription}
    (here : s.registry.made[id]? = some sub) : s.holding id sub = s := by
  rw [holding, set_eq_self here]

/-- A failed act ends in one of a few ways; only the first two change anything on the way. -/
theorem Orderly.unchanged (orderly : s.Orderly) {act : Act} {fault : Fault}
    (outcome : Outcome s act (.error fault) s') : act.MayFail fault ∧ Unchanged s s' := by
  have orderly' := orderly.outcome outcome
  generalize hr : (Except.error fault : Except Fault Reply) = reply at outcome
  cases outcome with
  | addRefused f g mode text valid free refusing =>
    cases hr
    exact ⟨.inr (.inr ⟨text, rfl⟩), rfl, fun _ => rfl, List.prefix_append _ _, rfl, rfl⟩
  | removeRefused f id text named refusing =>
    cases hr
    have named' (g : String) :
        ((s.registry.erase f).putBack f id).find? g = s.registry.find? g := by
      rw [Registry.find?_putBack, Registry.find?_erase, Registry.find?_erase]
      by_cases same : g = f <;> simp [same, named]
    refine ⟨.inr ⟨text, rfl⟩, orderly.sound.filters_eq orderly'.sound named', named', ?_, rfl, rfl⟩
    simp only [Registry.made_putBack, Registry.made_erase, List.prefix_rfl]
  | flawed f g mode flaw found =>
    cases hr
    exact ⟨.inl ⟨_, rfl⟩, .refl s⟩
  | inUse f g mode valid taken =>
    cases hr
    exact ⟨.inr (.inl rfl), .refl s⟩
  | absent f free =>
    cases hr
    exact ⟨.inl rfl, .refl s⟩
  | unknown f now free =>
    cases hr
    exact ⟨.inl rfl, .refl s⟩
  | received f now id sub sub' result named here asked =>
    cases result with
    | error fault =>
      cases hr
      obtain ⟨rfl, kind⟩ := asked.kept
      rw [holding_self here]
      exact ⟨.inr kind, .refl s⟩
    | ok m => cases hr
  | asked id now f sub sub' result here asked =>
    cases result with
    | error fault =>
      cases hr
      obtain ⟨rfl, kind⟩ := asked.kept
      rw [holding_self here]
      exact ⟨⟨f, kind⟩, .refl s⟩
    | ok m => cases hr
  | publishRefused topic payload g retain text refusing =>
    cases hr
    exact ⟨⟨text, rfl⟩, .refl s⟩
  | _ => cases hr

/-- What an act answers and leaves behind. -/
structure Conduct (s : Rehearsal) (act : Act) (reply : Except Fault Reply) (s' : Rehearsal) :
    Prop where
  atomic : ∀ fault, reply = .error fault → act.MayFail fault ∧ Unchanged s s'
  recorded : s'.link.accepted =
    s.link.accepted ++ if reply.isOk then act.request?.toList else []
  added : ∀ f g mode, act = .add f g mode →
    (reply.isOk = true ↔
      filterFlaw? f = none ∧ s.registry.contains f = false ∧ s.link.refusing = false)
  removed : ∀ f, act = .remove f →
    (reply.isOk = true ↔ s.registry.contains f = true ∧ s.link.refusing = false)

theorem Outcome.recorded {act : Act} {reply : Except Fault Reply}
    (outcome : Outcome s act reply s') :
    s'.link.accepted = s.link.accepted ++ if reply.isOk then act.request?.toList else [] := by
  have routed_accepted {s s' : Rehearsal} {m : Message} {found : Bool}
      (routed : Routed s m found s') : s'.link.accepted = s.link.accepted := by
    cases routed <;> rfl
  cases outcome with
  | dispatched m found s' routed => simp [routed_accepted routed, Act.request?]
  | received f now id sub sub' result named here asked => simp [holding, Act.request?]
  | asked id now f sub sub' result here asked => simp [holding, Act.request?]
  | published topic payload g retain s' accepting back =>
    rcases back with rfl | ⟨found, routed⟩
    · simp [noted, Act.request?, Except.isOk, Except.toBool]
    · simp [routed_accepted routed, noted, Act.request?, Except.isOk, Except.toBool]
  | _ => simp [noted, Act.request?, Except.isOk, Except.toBool]

theorem Orderly.conduct (orderly : s.Orderly) {act : Act} {reply : Except Fault Reply}
    (outcome : Outcome s act reply s') : Conduct s act reply s' where
  atomic := by
    rintro fault rfl
    exact orderly.unchanged outcome
  recorded := outcome.recorded
  added := by
    rintro f g mode rfl
    cases outcome with
    | flawed f g mode flaw found => simp [Except.isOk, Except.toBool, found]
    | inUse f g mode valid taken => simp [Except.isOk, Except.toBool, taken]
    | addRefused f g mode text valid free refusing => simp [Except.isOk, Except.toBool, refusing]
    | added f g mode valid free accepting =>
      have free := (Registry.contains_eq_false_iff _ f).mpr free
      simp [Except.isOk, Except.toBool, valid, free, accepting]
  removed := by
    rintro f rfl
    cases outcome with
    | absent f free =>
      have free := (Registry.contains_eq_false_iff _ f).mpr free
      simp [Except.isOk, Except.toBool, free]
    | removeRefused f id text named refusing => simp [Except.isOk, Except.toBool, refusing]
    | removed f id named accepting =>
      simp [Except.isOk, Except.toBool, Registry.contains, named, accepting]

/-- What the accepted requests tell of the registry. -/
structure Replayed (s : Rehearsal) : Prop where
  ordered : s.registry.filters.Pairwise (· < ·)
  exactly : ∀ f, f ∈ s.registry.filters ↔ endsSubscribed (verdicts f s.link.accepted) = true
  named : ∀ f ∈ s.registry.filters, ∃ id sub,
    s.registry.get f = .ok id ∧ s.registry.made[id]? = some sub ∧ sub.filter = f

theorem Orderly.replayed (orderly : s.Orderly) : s.Replayed where
  ordered := orderly.sound.filters_ordered
  exactly := by
    intro f
    rw [Registry.mem_filters, orderly.inUse]
  named := by
    intro f h
    obtain ⟨id, named⟩ := Option.isSome_iff_exists.mp ((Registry.mem_filters _ f).mp h)
    obtain ⟨sub, here, filter⟩ := orderly.made_of_find? named
    exact ⟨id, sub, Registry.get_eq_ok.mpr named, here, filter⟩

/-- After any acts the filters in use can be read off the accepted requests, and the next act
returns; if it fails, it leaves no trace. -/
theorem replayed_and_atomic {steps : Nat} {acts : List Act}
    (run : fresh.run? (steps + 1) acts = some s) :
    s.Replayed ∧ ∀ act, s.Allows act → ∃ reply s',
      s.act? (steps + 1) act = some (reply, s') ∧ Conduct s act reply s' ∧ s'.Replayed := by
  have orderly := orderly_of_run orderly_fresh run
  refine ⟨orderly.replayed, fun act allowed => ?_⟩
  obtain ⟨reply, s', done, outcome⟩ := orderly.act? steps allowed
  exact ⟨reply, s', done, orderly.conduct outcome, (orderly.outcome outcome).replayed⟩

/-- Two filters are added and a message waits under one; the link then refuses to give that one up
and to take a third. -/
def refused : List Act :=
  [.add "b" .usual .queue, .add "a/#" .usual .callback, .dispatch ⟨"b", [0x78]⟩, .refuse true,
    .remove "b", .add "c" .usual .queue]

theorem replayed_and_atomic_refused :
    ∃ s, fresh.run? 1 refused = some s ∧ s.link.accepted =
        [.subscribe "b" .usual, .subscribe "a/#" .usual] ∧
      (s.registry.get "b").toOption = some 0 ∧
      (s.registry.made[0]?).bind Subscription.pending? = some 1 ∧
      s.Replayed ∧ ∃ reply s', s.act? 1 (.remove "b") = some (reply, s') ∧
        Conduct s (.remove "b") reply s' ∧ s'.Replayed := by
  obtain ⟨s, run, accepted, named, waits⟩ : ∃ s, fresh.run? 1 refused = some s ∧
      s.link.accepted = [.subscribe "b" .usual, .subscribe "a/#" .usual] ∧
      (s.registry.get "b").toOption = some 0 ∧
      (s.registry.made[0]?).bind Subscription.pending? = some 1 := by
    exact ⟨_, rfl, by decide, by decide, by decide⟩
  obtain ⟨replayed, next⟩ := replayed_and_atomic run
  exact ⟨s, run, accepted, named, waits, replayed, next (.remove "b") trivial⟩

end Rehearsal

end Courier
