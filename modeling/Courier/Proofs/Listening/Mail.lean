import Courier.Proofs.Listening

/-!
# A listener and its messages

What was printed, what waits at the listener's subscription and what is on its way there are all
that was ever looked up for it, in the order in which it came.
-/

namespace Courier.CommandLine

open Traffic (Routing sentTo Grows grows_of_filters grows_entered proper_route)

namespace Hearing

variable {σ : Type} {link : LinkAnswers σ} {l : σ} {usual : String} {s s' : Hearing σ}
  {moves : List (Move σ)}

/-! ## The listener's calls for messages -/

/-- The messages that wait at a subscription. -/
def waitingAt (sub : Subscription) : List Message :=
  match sub.delivery with
  | .queue box => box.pending
  | .callback _ => []

/-- A mailbox at which nobody waits, or the one call of the listener; it sleeps only where there is
nothing to be had. -/
inductive Attended : Bool → Mailbox → Prop where
  | idle (pending : List Message) : Attended false ⟨pending, [], []⟩
  | asleep (w : Waiter) : Attended true ⟨[], [w], []⟩
  | woken (pending : List Message) (w : Waiter) : Attended true ⟨pending, [], [w]⟩

theorem Attended.push {awaited : Bool} {box : Mailbox} (attended : Attended awaited box)
    (m : Message) (chosen : Nat) : Attended awaited (box.push m chosen) := by
  cases attended with
  | idle pending => exact .idle _
  | asleep w =>
    simpa [Mailbox.push, Nat.mod_one] using Attended.woken [m] w
  | woken pending w => exact .woken _ w

/-- What comes of a listener's turn at its mailbox. -/
inductive Fetched (s : Hearing σ) (id : SubscriptionId) : List Message → Hearing σ → Prop where
  | message (m : Message) (rest : List Message) :
    Fetched s id (m :: rest) { s with
      registry.made := s.registry.made.set id ⟨s.listener.filter, .queue ⟨rest, [], []⟩⟩
      listener.printed := s.listener.printed ++ [m]
      stage := .looking }
  | nothing :
    Fetched s id [] { s with
      registry.made := s.registry.made.set id ⟨s.listener.filter, .queue ⟨[], [], []⟩⟩
      stage := .looking }
  | asleep (w : Waiter) :
    Fetched s id [] { s with
      registry.made := s.registry.made.set id ⟨s.listener.filter, .queue ⟨[], [w], []⟩⟩
      stage := .waiting id }

variable {id : SubscriptionId} {now : Instant}

/-- A call that finds nothing goes to sleep. -/
theorem mail?_arrive_empty
    (here : s.registry.made[id]? = some ⟨s.listener.filter, .queue ⟨[], [], []⟩⟩)
    (now : Instant) (w : Waiter) : s.mail? id now (.arrive w) = some { s with
      registry.made := s.registry.made.set id ⟨s.listener.filter, .queue ⟨[], [w], []⟩⟩
      stage := .waiting id } := by
  simp [mail?, here, Subscription.mail?, Mailbox.step?, Mailbox.arrive]

theorem mail?_arrive {pending : List Message}
    (here : s.registry.made[id]? = some ⟨s.listener.filter, .queue ⟨pending, [], []⟩⟩)
    (now : Instant) (w : Waiter) :
    ∃ s', s.mail? id now (.arrive w) = some s' ∧ Fetched s id pending s' := by
  cases pending with
  | nil => exact ⟨_, mail?_arrive_empty here now w, .asleep w⟩
  | cons m rest =>
    exact ⟨_, by simp [mail?, here, Subscription.mail?, Mailbox.step?, Mailbox.arrive, hear,
      Listening.hear], .message m rest⟩

/-- The parts of a turn at a mailbox. -/
theorem mail?_eq_some {box : Mailbox} {e : Mailbox.Event}
    (here : s.registry.made[id]? = some ⟨s.listener.filter, .queue box⟩)
    (h : s.mail? id now e = some s') :
    ∃ box' answers, Mailbox.Visit box e (box', answers) ∧
      (match answers with
        | [] => { s with
            registry.made := s.registry.made.set id ⟨s.listener.filter, .queue box'⟩
            stage := .waiting id }
        | answer :: _ => { s with
            registry.made := s.registry.made.set id ⟨s.listener.filter, .queue box'⟩ }.hear
              (answer.message.elim (.error (.receiveTimeout s.listener.filter)) .ok)) = s' := by
  simp only [mail?, here, Option.bind_eq_bind, Option.bind_some] at h
  obtain ⟨⟨after, answers⟩, mailed, eq⟩ := Option.bind_eq_some_iff.mp h
  obtain ⟨_, _, box', ⟨⟩, rfl, visit⟩ := Subscription.mail?_eq_some mailed
  refine ⟨box', answers, visit, ?_⟩
  cases answers <;> exact Option.some.inj eq

/-- Woken or not, in time or not, the call gets the first message that there is. -/
theorem mail?_waking {box : Mailbox} {e : Mailbox.Event}
    (here : s.registry.made[id]? = some ⟨s.listener.filter, .queue box⟩)
    (attended : Attended true box) (waking : e.isWaking = true)
    (h : s.mail? id now e = some s') : Fetched s id box.pending s' := by
  obtain ⟨box', answers, visit, rfl⟩ := mail?_eq_some here h
  -- the one call that waits is the one that runs
  generalize hr : (box', answers) = r at visit
  cases attended with
  | asleep w =>
    cases visit with
    | pushed m chosen => cases waking
    | arrived w => cases waking
    | resumed k w' known => cases known
    | stirred k w' known =>
      obtain rfl := List.mem_singleton.mp known
      simp [Mailbox.arrive] at hr
      obtain ⟨rfl, rfl⟩ := hr
      exact .asleep _
    | expired k w' known =>
      obtain rfl := List.mem_singleton.mp known
      simp [Mailbox.giveUp] at hr
      obtain ⟨rfl, rfl⟩ := hr
      exact .nothing
  | woken pending w =>
    cases visit with
    | pushed m chosen => cases waking
    | arrived w => cases waking
    | stirred k w' known => cases known
    | expired k w' known => cases known
    | resumed k w' known =>
      obtain rfl := List.mem_singleton.mp known
      cases pending with
      | nil =>
        simp [Mailbox.arrive] at hr
        obtain ⟨rfl, rfl⟩ := hr
        exact .asleep _
      | cons m rest =>
        simp [Mailbox.arrive] at hr
        obtain ⟨rfl, rfl⟩ := hr
        exact .message m rest

/-! ## Where each message is -/

/-- What became of a message at the table, where no other filters than these are in use. -/
structure Chosen (among : List String) (r : Registry) (routing : Routing) : Prop where
  proper : routing.Proper r
  exact : routing.message.topic ∈ routing.filters →
    ∃ id, routing.target = some id ∧ r.Made routing.message.topic id
  among : ∀ f ∈ routing.filters, f ∈ among

/-- What holds throughout. -/
structure Orderly (usual : String) (s : Hearing σ) : Prop where
  setUp : s.SetUp usual
  chosen : ∀ routing ∈ s.routed, Chosen (plan usual s.listener.filter) s.registry routing
  attended : ∀ id sub, s.registry.made[id]? = some sub →
    ∃ box, sub.delivery = .queue box ∧ Attended (s.stage.awaits id) box
  calls : ∀ id, s.stage = .waiting id →
    s.registry.find? s.listener.filter = some id ∧ s.listener.wantsMore = true
  early : s.stage.isListening = false → s.listener.printed = []
  /-- What was printed, then what waits, then what is on its way: all that was for the listener. -/
  accounts : ∀ id sub, s.registry.made[id]? = some sub → sub.filter = s.listener.filter →
    s.listener.printed ++ waitingAt sub ++ sentTo id s.matched.toList =
      sentTo id (s.routed.filterMap (·.sent?))
  known : ∀ x ∈ s.matched, x.1 < s.registry.made.length
  within : ∀ n ∈ s.listener.limit, s.listener.printed.length ≤ n.toNat
  ended : s.stage = .over (.ok ()) → s.listener.wantsMore = false

theorem Chosen.grow {among : List String} {r r' : Registry} {routing : Routing}
    (chosen : Chosen among r routing) (grows : Grows r r') : Chosen among r' routing := by
  refine ⟨chosen.proper.grow grows, fun inUse => ?_, chosen.among⟩
  obtain ⟨id, target, made⟩ := chosen.exact inUse
  exact ⟨id, target, grows _ id made⟩

theorem orderly_start (usual filter : String) (limit : Option UInt64) (l : σ) :
    (start usual filter limit l).Orderly usual := by
  refine ⟨setUp_start usual filter limit l, ?_, ?_, ?_, fun _ => rfl, ?_, ?_, ?_, ?_⟩ <;>
    simp [start, Registry.empty]

/-- Where all filters could be added each names one subscription. -/
theorem SetUp.only (setUp : s.SetUp usual) (going : s.stage.failed = false) {f : String}
    {i j : SubscriptionId} (hi : s.registry.Made f i) (hj : s.registry.Made f j) : i = j := by
  have distinct : s.names.Nodup := by
    have whole := plan_nodup usual s.listener.filter
    rw [← (setUp.sofar going).1] at whole
    exact (List.nodup_append.mp whole).1
  rw [Registry.made_iff] at hi hj
  exact (List.getElem?_inj (List.getElem?_eq_some_iff.mp hi).1 distinct).mp (hi.trans hj.symm)

/-- A step of the listener that leaves the subscriptions alone. -/
theorem Orderly.staged (orderly : s.Orderly usual) {stage : Stage}
    (setUp : SetUp usual { s with stage }) (idle : ∀ id, s.stage.awaits id = false)
    (idle' : ∀ id, stage ≠ .waiting id)
    (early : stage.isListening = false → s.listener.printed = [])
    (ended : stage = .over (.ok ()) → s.listener.wantsMore = false) :
    Orderly usual { s with stage } := by
  refine ⟨setUp, orderly.chosen, ?_, fun id h => absurd h (idle' id), early, orderly.accounts,
    orderly.known, orderly.within, ended⟩
  intro id sub here
  have same : stage.awaits id = s.stage.awaits id := by
    rw [idle id]
    cases stage with
    | waiting other => exact absurd rfl (idle' other)
    | _ => rfl
  exact same ▸ orderly.attended id sub here

theorem chosen_route (setUp : s.SetUp usual) (m : Message) :
    Chosen (plan usual s.listener.filter) s.registry
      ⟨m, s.registry.table.map (·.1), s.registry.target? m.topic⟩ := by
  have found {f : String} (h : f ∈ s.registry.table.map (·.1)) :
      ∃ id, s.registry.find? f = some id := by
    obtain ⟨entry, known, rfl⟩ := List.mem_map.mp h
    exact ⟨_, setUp.sound.find?_entry known⟩
  refine ⟨proper_route setUp.sound m, fun inUse => ?_, fun f inUse => ?_⟩
  · obtain ⟨id, exact⟩ := found inUse
    exact ⟨id, Registry.target?_of_exact exact, setUp.sound.made_of_find? exact⟩
  · obtain ⟨id, named⟩ := found inUse
    exact setUp.among f (Option.isSome_iff_exists.mpr ⟨id, named⟩)

theorem Orderly.route (orderly : s.Orderly usual) (free : s.matched = none) (m : Message) :
    Orderly usual { s with
      matched := (s.registry.target? m.topic).map (·, m)
      routed := s.routed ++ [⟨m, s.registry.table.map (·.1), s.registry.target? m.topic⟩] } where
  setUp := orderly.setUp.aside rfl rfl rfl
  chosen := by
    intro routing h
    rcases List.mem_append.mp h with old | new
    · exact orderly.chosen routing old
    · rw [List.mem_singleton.mp new]
      exact chosen_route orderly.setUp m
  attended := orderly.attended
  calls := orderly.calls
  early := orderly.early
  accounts := by
    intro id sub here own
    have before := orderly.accounts id sub here own
    rw [free, Option.toList_none] at before
    rw [List.filterMap_append, Traffic.sentTo_append, ← before]
    cases target : s.registry.target? m.topic <;> simp [Routing.sent?, sentTo]
  known := by
    intro x h
    obtain ⟨id, target, rfl⟩ := Option.map_eq_some_iff.mp h
    obtain ⟨f, named, -⟩ := orderly.setUp.sound.takes_of_target? target
    exact (orderly.setUp.sound.made_of_find? named).lt
  within := orderly.within
  ended := orderly.ended

theorem Orderly.handOver (orderly : s.Orderly usual) {m : Message}
    (matched : s.matched = some (id, m)) (chosen : Nat) :
    Orderly usual { s with
      registry.made := s.registry.made.modify id fun sub => sub.accept m chosen
      matched := none } := by
  have same := Traffic.filters_accept s.registry.made id m chosen
  have setUp := orderly.setUp.kept same
  have before {j : SubscriptionId} {sub' : Subscription}
      (h : (s.registry.made.modify id fun sub => sub.accept m chosen)[j]? = some sub') :
      ∃ sub, s.registry.made[j]? = some sub ∧
        sub' = if id = j then sub.accept m chosen else sub := by
    rw [List.getElem?_modify] at h
    obtain ⟨sub, here, rfl⟩ := Option.map_eq_some_iff.mp h
    refine ⟨sub, here, ?_⟩
    split <;> rfl
  refine ⟨setUp.aside rfl rfl rfl, ?_, ?_, orderly.calls, orderly.early, ?_, by simp,
    orderly.within, orderly.ended⟩
  · exact fun routing h => (orderly.chosen routing h).grow (grows_of_filters same)
  · intro j sub' here'
    obtain ⟨⟨f, d⟩, here, rfl⟩ := before here'
    obtain ⟨box, queue, attended⟩ := orderly.attended j _ here
    obtain rfl : d = .queue box := queue
    split
    · exact ⟨_, rfl, attended.push m chosen⟩
    · exact ⟨box, rfl, attended⟩
  · intro j sub' here' own
    obtain ⟨⟨f, d⟩, here, rfl⟩ := before here'
    obtain ⟨box, queue, -⟩ := orderly.attended j _ here
    obtain rfl : d = .queue box := queue
    have own : f = s.listener.filter := by
      split at own <;> exact own
    have accounts := orderly.accounts j _ here own
    rw [matched, Option.toList_some, Traffic.sentTo_singleton] at accounts
    rw [← accounts]
    by_cases there : id = j <;> simp [there, waitingAt, Subscription.accept, sentTo]

theorem Orderly.shuffle (orderly : s.Orderly usual) {table : List (String × SubscriptionId)}
    (perm : table.Perm s.registry.table) :
    Orderly usual { s with registry.table := table } := by
  have sound := orderly.setUp.sound.permuted perm
  have find_eq := sound.find?_permuted orderly.setUp.sound perm
  have contains_eq (f : String) :
      Registry.contains { s.registry with table } f = s.registry.contains f := by
    rw [Registry.contains, find_eq, Registry.contains]
  refine ⟨⟨sound, ?_, orderly.setUp.adds, ?_, ?_⟩, ?_, orderly.attended, ?_, orderly.early,
    orderly.accounts, orderly.known, orderly.within, orderly.ended⟩
  · intro f h
    rw [contains_eq] at h
    exact orderly.setUp.among f h
  · intro going
    simp only [contains_eq]
    exact orderly.setUp.sofar going
  · intro failed
    rw [contains_eq]
    exact orderly.setUp.failed failed
  · exact fun routing h => (orderly.chosen routing h).grow (grows_of_filters rfl)
  · intro id h
    rw [find_eq]
    exact orderly.calls id h

/-- The registry after a step of a call that adds a filter. -/
theorem made_of_adds {names : List String} {call : Change} (adds : Adds names call)
    (link : LinkAnswers σ) (r : Registry) (l : σ) : (call.step link (r, l)).2.1.made = r.made ∨
      ∃ f, (call.step link (r, l)).2.1.made = r.made ++ [⟨f, .queue .empty⟩] := by
  cases adds with
  | asked _ f =>
    simp only [Change.step]
    cases checkFilter f with
    | error fault => exact .inl rfl
    | ok done =>
      cases entering : r.enter f (.queue .empty) with
      | error fault => exact .inl rfl
      | ok r' =>
        obtain ⟨-, rfl⟩ := Registry.enter_eq_ok entering
        exact .inr ⟨f, rfl⟩
  | entered before f =>
    rcases answer : link (.subscribe f .usual) l with ⟨_ | _, _⟩ <;>
      exact .inl (by simp only [Change.step, answer])
  | refused before f fault => exact .inl rfl
  | finished _ result => exact .inl rfl

theorem old_or_new {made : List Subscription} {id : SubscriptionId} {sub new : Subscription}
    (h : (made ++ [new])[id]? = some sub) :
    made[id]? = some sub ∨ id = made.length ∧ sub = new := by
  rcases Nat.lt_or_ge id made.length with old | beyond
  · exact .inl ((List.getElem?_append_left old).symm.trans h)
  · rw [List.getElem?_append_right beyond, List.getElem?_singleton] at h
    split at h
    · rename_i first
      have last := Nat.le_antisymm (Nat.sub_eq_zero_iff_le.mp first) beyond
      exact .inr ⟨last, (Option.some.inj h).symm⟩
    · cases h

/-- A new subscription has nothing, and nothing was ever for it. -/
theorem Orderly.adding (orderly : s.Orderly usual) (link : LinkAnswers σ) {call : Change}
    {rest : List String} (stage : s.stage = .adding call rest)
    (unfinished : ∀ result, call ≠ .finished result) :
    Orderly usual { s with
      registry := (call.step link (s.registry, s.link)).2.1
      link := (call.step link (s.registry, s.link)).2.2
      stage := .adding (call.step link (s.registry, s.link)).1 rest } := by
  have silent : s.listener.printed = [] := orderly.early (by rw [stage]; rfl)
  have setUp := orderly.setUp.adding link stage unfinished
  have attended {id : SubscriptionId} {sub : Subscription}
      (here : s.registry.made[id]? = some sub) :
      ∃ box, sub.delivery = .queue box ∧ Attended false box := by
    have known := orderly.attended id sub here
    rw [stage] at known
    exact known
  rcases made_of_adds (orderly.setUp.adds call rest stage) link s.registry s.link with
    same | ⟨f, new⟩
  · refine ⟨setUp, ?_, ?_, by simp, fun _ => silent, ?_, ?_, orderly.within, by simp⟩
    · exact fun routing h => (orderly.chosen routing h).grow (grows_of_filters (by rw [same]))
    · exact fun id sub here => attended (same ▸ here)
    · exact fun id sub here own => orderly.accounts id sub (same ▸ here) own
    · exact fun x h => same ▸ orderly.known x h
  · have grows : Grows s.registry (call.step link (s.registry, s.link)).2.1 := by
      have longer := grows_entered s.registry (call.step link (s.registry, s.link)).2.1.table
        ⟨f, .queue .empty⟩
      rw [← new] at longer
      exact longer
    refine ⟨setUp, ?_, ?_, by simp, fun _ => silent, ?_, ?_, orderly.within, by simp⟩
    · exact fun routing h => (orderly.chosen routing h).grow grows
    · intro id sub here
      simp only [new] at here
      rcases old_or_new here with old | ⟨-, rfl⟩
      · exact attended old
      · exact ⟨.empty, rfl, .idle []⟩
    · intro id sub here own
      simp only [new] at here
      rcases old_or_new here with old | ⟨rfl, rfl⟩
      · exact orderly.accounts id sub old own
      · have unmatched : sentTo s.registry.made.length s.matched.toList = [] :=
          Traffic.sentTo_eq_nil fun x h => Nat.ne_of_lt (orderly.known x (Option.mem_toList.mp h))
        have unrouted : sentTo s.registry.made.length (s.routed.filterMap (·.sent?)) = [] := by
          refine Traffic.sentTo_eq_nil fun x h => ?_
          obtain ⟨routing, known, sent⟩ := List.mem_filterMap.mp h
          obtain ⟨id, target, rfl⟩ := Option.map_eq_some_iff.mp sent
          obtain ⟨g, -, -, made⟩ := (orderly.chosen routing known).proper.taken id target
          exact Nat.ne_of_lt made.lt
        rw [silent, unmatched, unrouted]
        rfl
    · intro x h
      simp only [new, List.length_append]
      exact Nat.lt_add_right _ (orderly.known x h)

/-- What goes from the listener's mailbox goes to its end of what is printed. -/
theorem Orderly.visited (orderly : s.Orderly usual) {box box' : Mailbox} {printed : List Message}
    {stage : Stage} (named : s.registry.find? s.listener.filter = some id)
    (here : s.registry.made[id]? = some ⟨s.listener.filter, .queue box⟩)
    (turn : s.stage = .looking ∨ s.stage = .waiting id)
    (next : stage = .looking ∨
      stage = .waiting id ∧ s.listener.wantsMore = true ∧ printed = s.listener.printed)
    (attended : Attended (stage.awaits id) box')
    (moved : printed ++ box'.pending = s.listener.printed ++ box.pending)
    (within : ∀ n ∈ s.listener.limit, printed.length ≤ n.toNat) :
    Orderly usual { s with
      registry.made := s.registry.made.set id ⟨s.listener.filter, .queue box'⟩
      listener.printed := printed
      stage } := by
  have going : s.stage.failed = false := by rcases turn with h | h <;> rw [h] <;> rfl
  have same :
      (s.registry.made.set id ⟨s.listener.filter, .queue box'⟩).map (·.filter) = s.names :=
    filters_set here rfl
  have before {j : SubscriptionId} {sub : Subscription}
      (h : (s.registry.made.set id ⟨s.listener.filter, .queue box'⟩)[j]? = some sub) :
      j = id ∧ sub = ⟨s.listener.filter, .queue box'⟩ ∨
        j ≠ id ∧ s.registry.made[j]? = some sub := by
    by_cases there : id = j
    · subst there
      rw [List.getElem?_set_self (List.getElem?_eq_some_iff.mp here).1] at h
      exact .inl ⟨rfl, (Option.some.inj h).symm⟩
    · rw [List.getElem?_set_ne there] at h
      exact .inr ⟨Ne.symm there, h⟩
  have setUp : SetUp usual { s with
      registry.made := s.registry.made.set id ⟨s.listener.filter, .queue box'⟩
      listener.printed := printed
      stage } := by
    have settled : SetUp usual { s with stage } := by
      refine orderly.setUp.settled ?_ ?_ ?_
      · rcases next with rfl | ⟨rfl, -⟩ <;> simp
      · rcases next with rfl | ⟨rfl, -⟩ <;> rcases turn with h | h <;> rw [h] <;> rfl
      · rw [going]
        rcases next with rfl | ⟨rfl, -⟩ <;> rfl
    exact (settled.kept same).aside rfl rfl rfl
  refine ⟨setUp, ?_, ?_, ?_, ?_, ?_, ?_, within, ?_⟩
  · exact fun routing h => (orderly.chosen routing h).grow (grows_of_filters same)
  · intro j sub h
    rcases before h with ⟨rfl, rfl⟩ | ⟨apart, old⟩
    · exact ⟨box', rfl, attended⟩
    · have unawaited : stage.awaits j = s.stage.awaits j := by
        rcases next with rfl | ⟨rfl, -⟩ <;> rcases turn with h | h <;> rw [h] <;>
          simp [Stage.awaits, Ne.symm apart]
      exact unawaited ▸ orderly.attended j sub old
  · rintro j h
    rcases next with rfl | ⟨rfl, wants, rfl⟩
    · cases h
    · cases h
      exact ⟨named, wants⟩
  · intro early
    rcases next with rfl | ⟨rfl, -⟩ <;> cases early
  · intro j sub h own
    rcases before h with ⟨rfl, rfl⟩ | ⟨apart, old⟩
    · have accounts := orderly.accounts j _ here rfl
      simp only [waitingAt] at accounts ⊢
      rw [moved, accounts]
    · -- only one subscription was ever made for the listener's filter
      obtain ⟨f, d⟩ := sub
      obtain rfl : f = s.listener.filter := own
      exact absurd (orderly.setUp.only going ⟨d, old⟩ ⟨_, here⟩) apart
  · intro x h
    rw [List.length_set]
    exact orderly.known x h
  · rintro rfl
    rcases next with h | ⟨h, -⟩ <;> cases h

theorem wantsMore_iff (l : Listening) :
    l.wantsMore = true ↔ ∀ n ∈ l.limit, l.printed.length < n.toNat := by
  cases h : l.limit <;> simp [Listening.wantsMore, h]

/-- A turn of the listener at its mailbox takes the first message there, or none. -/
theorem Orderly.fetched (orderly : s.Orderly usual) {box : Mailbox}
    (named : s.registry.find? s.listener.filter = some id)
    (here : s.registry.made[id]? = some ⟨s.listener.filter, .queue box⟩)
    (wants : s.listener.wantsMore = true) (turn : s.stage = .looking ∨ s.stage = .waiting id)
    (fetched : Fetched s id box.pending s') : s'.Orderly usual := by
  have room := (wantsMore_iff _).mp wants
  generalize hp : box.pending = pending at fetched
  cases fetched with
  | message m rest =>
    refine orderly.visited named here turn (.inl rfl) (.idle rest) (by simp [hp]) fun n limit => ?_
    rw [List.length_append]
    exact room n limit
  | nothing =>
    exact orderly.visited named here turn (.inl rfl) (.idle []) (by simp [hp]) orderly.within
  | asleep w =>
    refine orderly.visited named here turn (.inr ⟨rfl, wants, rfl⟩) ?_ (by simp [hp]) orderly.within
    simpa [Stage.awaits] using Attended.asleep w

/-- Once all filters are added the listener's own names its subscription. -/
theorem SetUp.named (setUp : s.SetUp usual) (going : s.stage.failed = false)
    (left : s.stage.left = []) : ∃ id, s.registry.find? s.listener.filter = some id := by
  obtain ⟨sofar, inUse⟩ := setUp.sofar going
  rw [left, List.append_nil] at sofar
  have planned : s.listener.filter ∈ s.names := by
    rw [sofar]
    exact List.mem_of_getLast? (plan_getLast? usual s.listener.filter)
  exact Option.isSome_iff_exists.mp ((inUse _).mpr planned)

/-- The mailbox of the listener's filter. -/
theorem Orderly.mailbox (orderly : s.Orderly usual)
    (named : s.registry.find? s.listener.filter = some id) :
    ∃ box, s.registry.made[id]? = some ⟨s.listener.filter, .queue box⟩ ∧
      Attended (s.stage.awaits id) box := by
  obtain ⟨d, here⟩ := orderly.setUp.sound.made_of_find? named
  obtain ⟨box, rfl, attended⟩ := orderly.attended id _ here
  exact ⟨box, here, attended⟩

/-- What the listener does once its filters are added. -/
inductive Looked (s : Hearing σ) : Hearing σ → Prop where
  | done (sated : s.listener.wantsMore = false) : Looked s { s with stage := .over (.ok ()) }
  | fetched (id : SubscriptionId) (pending : List Message) (s' : Hearing σ)
      (named : s.registry.find? s.listener.filter = some id)
      (here : s.registry.made[id]? = some ⟨s.listener.filter, .queue ⟨pending, [], []⟩⟩)
      (wants : s.listener.wantsMore = true) (fetched : Fetched s id pending s') : Looked s s'

theorem Orderly.look (orderly : s.Orderly usual) (link : LinkAnswers σ)
    (stage : s.stage = .looking) (now : Instant) :
    ∃ s', s.proceed? link now = some s' ∧ Looked s s' := by
  rw [proceed?, stage]
  cases wants : s.listener.wantsMore with
  | false => exact ⟨_, rfl, .done wants⟩
  | true =>
    obtain ⟨id, named⟩ := orderly.setUp.named (by rw [stage]; rfl) (by rw [stage]; rfl)
    obtain ⟨box, here, attended⟩ := orderly.mailbox named
    rw [stage] at attended
    generalize hb : Stage.looking.awaits id = awaited at attended
    cases attended with
    | idle pending =>
      obtain ⟨s', mailed, fetched⟩ :=
        mail?_arrive here now ⟨0, now.after? pollInterval⟩
      refine ⟨s', ?_, .fetched id pending s' named here wants fetched⟩
      simp only [if_true, Registry.get_eq_ok.mpr named, mailed]
    | _ => cases hb

theorem Orderly.looked (orderly : s.Orderly usual) (stage : s.stage = .looking)
    (looked : Looked s s') : s'.Orderly usual := by
  cases looked with
  | done sated =>
    refine orderly.staged (orderly.setUp.settled ?_ ?_ ?_) ?_ ?_ ?_ fun _ => sated
    · simp
    · rw [stage]; rfl
    · rw [stage]; rfl
    · rw [stage]; exact fun _ => rfl
    · simp
    · intro early; cases early
  | fetched id pending s' named here wants fetched =>
    exact orderly.fetched named here wants (.inl stage) fetched

/-- A stage of adding filters gives way to another. -/
theorem Orderly.advanced (orderly : s.Orderly usual) {stage : Stage}
    (early : s.stage.isListening = false) (idle : ∀ id, stage ≠ .waiting id)
    (going : stage ≠ .over (.ok ()))
    (adds : ∀ call rest, stage = .adding call rest → Adds s.names call)
    (left : stage.failed = false → stage.left = s.stage.left)
    (failed : stage.failed = s.stage.failed) : Orderly usual { s with stage } := by
  have setUp : SetUp usual { s with stage } :=
    ⟨orderly.setUp.sound, orderly.setUp.among, adds,
      fun h => left h ▸ orderly.setUp.sofar (failed ▸ h),
      fun h => orderly.setUp.failed (failed ▸ h)⟩
  refine orderly.staged setUp ?_ idle (fun _ => orderly.early early) fun h => absurd h going
  intro id
  cases stage : s.stage with
  | waiting other =>
    rw [stage] at early
    cases early
  | _ => rfl

theorem Orderly.proceed? (orderly : s.Orderly usual) (h : s.proceed? link now = some s') :
    s'.Orderly usual := by
  rcases stage : s.stage with rest | ⟨call, rest⟩ | _ | id | result
  · have early : s.stage.isListening = false := by rw [stage]; rfl
    rw [Hearing.proceed?, stage] at h
    cases rest with
    | nil =>
      cases h
      exact orderly.advanced early (by simp) (by simp) (by simp) (by simp [stage, Stage.left])
        (by simp [stage, Stage.failed])
    | cons f rest =>
      cases h
      refine orderly.advanced early (by simp) (by simp) ?_ (by simp [stage, Stage.left])
        (by simp [stage, Stage.failed])
      rintro _ _ ⟨⟩
      exact .asked s.names f
  · have early : s.stage.isListening = false := by rw [stage]; rfl
    by_cases finished : ∃ result, call = .finished result
    · obtain ⟨result, rfl⟩ := finished
      rw [Hearing.proceed?, stage] at h
      cases result <;> cases h <;>
        exact orderly.advanced early (by simp) (by simp) (by simp)
          (by simp [stage, Stage.left, Stage.failed]) (by simp [stage, Stage.failed])
    · have unfinished (result : Except Fault Unit) : call ≠ .finished result :=
        fun same => finished ⟨result, same⟩
      have eq : s.proceed? link now = some { s with
          registry := (call.step link (s.registry, s.link)).2.1
          link := (call.step link (s.registry, s.link)).2.2
          stage := .adding (call.step link (s.registry, s.link)).1 rest } := by
        rw [Hearing.proceed?, stage]
        cases call with
        | finished result => exact absurd rfl (unfinished result)
        | _ => rfl
      cases eq.symm.trans h
      exact orderly.adding link stage unfinished
  · obtain ⟨next, done, looked⟩ := orderly.look link stage now
    cases done.symm.trans h
    exact orderly.looked stage looked
  · rw [Hearing.proceed?, stage] at h
    cases h
  · rw [Hearing.proceed?, stage] at h
    cases h

theorem Orderly.step? (orderly : s.Orderly usual) {move : Move σ}
    (h : s.step? link move = some s') : s'.Orderly usual := by
  cases move with
  | proceed now => exact orderly.proceed? h
  | wake now e =>
    simp only [Hearing.step?] at h
    split at h
    · rename_i id stage
      split at h
      · rename_i waking
        obtain ⟨named, wants⟩ := orderly.calls id stage
        obtain ⟨box, here, attended⟩ := orderly.mailbox named
        have awaited : s.stage.awaits id = true := by rw [stage]; simp [Stage.awaits]
        rw [awaited] at attended
        exact orderly.fetched named here wants (.inr stage) (mail?_waking here attended waking h)
      · cases h
    · cases h
  | route m =>
    simp only [Hearing.step?] at h
    split at h
    · rename_i free
      cases h
      exact orderly.route (Option.isNone_iff_eq_none.mp free) m
    · cases h
  | handOver chosen =>
    obtain ⟨⟨id, m⟩, matched, rfl⟩ := Option.map_eq_some_iff.mp h
    exact orderly.handOver matched chosen
  | relink l =>
    cases h
    exact ⟨orderly.setUp.aside rfl rfl rfl, orderly.chosen, orderly.attended, orderly.calls,
      orderly.early, orderly.accounts, orderly.known, orderly.within, orderly.ended⟩
  | shuffle table =>
    simp only [Hearing.step?] at h
    split at h
    · rename_i perm
      cases h
      exact orderly.shuffle (List.isPerm_iff.mp perm)
    · cases h

theorem orderly_of_run {filter : String} {limit : Option UInt64}
    (run : (start usual filter limit l).run? link moves = some s) : s.Orderly usual :=
  foldlM_keeps (fun orderly step => orderly.step? step) (orderly_start usual filter limit l) run

end Hearing

end Courier.CommandLine
