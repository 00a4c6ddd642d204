import Courier.Proofs.Listening.Mail

/-!
# What the listener prints

A message that both filters take in goes to one of them only, and nobody reads the subscription of
the usual one. All others that the listener's filter takes in are printed.
-/

namespace Courier.CommandLine

open Traffic (Routing sentTo)

namespace Hearing

variable {σ : Type} {link : LinkAnswers σ} {l : σ} {usual : String} {s s' : Hearing σ}
  {moves : List (Move σ)} {id : SubscriptionId} {now : Instant}

/-- The messages that came while the listener's filter was in use and that it takes in. -/
def matching (s : Hearing σ) : List Message :=
  (s.routed.filter fun r => s.listener.filter ∈ r.filters &&
    filterMatches s.listener.filter r.message.topic).map (·.message)

/-- The messages that wait for the listener. -/
def mail (s : Hearing σ) : List Message :=
  (s.registry.find? s.listener.filter).elim [] fun id => s.registry.made[id]?.elim [] waitingAt

/-- The message that the network thread is about to hand over, if it is for the listener. -/
def inHand (s : Hearing σ) : List Message :=
  (s.registry.find? s.listener.filter).elim [] fun id => sentTo id s.matched.toList

theorem sentTo_routed (id : SubscriptionId) (routed : List Routing) :
    sentTo id (routed.filterMap (·.sent?)) =
      (routed.filter fun r => r.target = some id).map (·.message) := by
  induction routed with
  | nil => rfl
  | cons r rest ih =>
    cases target : r.target with
    | none => simpa [Routing.sent?, target] using ih
    | some j =>
      by_cases same : j = id
      · simpa [Routing.sent?, target, same, sentTo] using ih
      · simpa [Routing.sent?, target, same, sentTo] using ih

theorem mem_plan {filter f : String} (h : f ∈ plan usual filter) :
    f = filter ∨ f = usual ∧ filter ≠ usual := by
  rw [plan] at h
  split at h
  · exact .inl (List.mem_singleton.mp h)
  · rename_i other
    rcases List.mem_cons.mp h with first | rest
    · exact .inr ⟨first, other⟩
    · exact .inl (List.mem_singleton.mp rest)

theorem SetUp.going (setUp : s.SetUp usual) (inUse : s.registry.contains s.listener.filter = true) :
    s.stage.failed = false := by
  cases failed : s.stage.failed with
  | false => rfl
  | true => exact absurd inUse (by simp [setUp.failed failed])

/-- The usual filter keeps a message from the listener. -/
def Kept (usual : String) (s : Hearing σ) (r : Routing) : Prop :=
  s.listener.filter ≠ usual ∧ r.message.topic ≠ s.listener.filter ∧ usual ∈ r.filters ∧
    filterMatches usual r.message.topic = true ∧
    ∃ id, r.target = some id ∧ s.registry.Made usual id

/-- A message that the listener's filter takes in goes to its subscription, unless the usual filter
is another one that keeps it. -/
theorem Orderly.target_of_matches (orderly : s.Orderly usual)
    (named : s.registry.find? s.listener.filter = some id) {r : Routing} (known : r ∈ s.routed)
    (inUse : s.listener.filter ∈ r.filters)
    (passed : filterMatches s.listener.filter r.message.topic = true) :
    r.target = some id ∨ s.Kept usual r := by
  have chosen := orderly.chosen r known
  have going := orderly.setUp.going (Option.isSome_iff_exists.mpr ⟨id, named⟩)
  have own := orderly.setUp.sound.made_of_find? named
  cases target : r.target with
  | none => exact absurd passed (by simp [chosen.proper.dropped target _ inUse])
  | some j =>
    obtain ⟨f, taker, taken, made⟩ := chosen.proper.taken j target
    rcases mem_plan (chosen.among f taker) with rfl | ⟨rfl, other⟩
    · exact .inl (congrArg some (orderly.setUp.only going made own))
    · refine .inr ⟨other, fun exact => ?_, taker, taken, j, target, made⟩
      obtain ⟨k, target', made'⟩ := chosen.exact (exact ▸ inUse)
      cases target'.symm.trans target
      exact other (exact ▸ made'.unique made)

theorem Orderly.matches_of_target (orderly : s.Orderly usual)
    (named : s.registry.find? s.listener.filter = some id) {r : Routing} (known : r ∈ s.routed)
    (target : r.target = some id) : s.listener.filter ∈ r.filters ∧
      filterMatches s.listener.filter r.message.topic = true := by
  obtain ⟨f, taker, taken, made⟩ := (orderly.chosen r known).proper.taken id target
  obtain rfl := made.unique (orderly.setUp.sound.made_of_find? named)
  exact ⟨taker, taken⟩

theorem mail_eq {box : Mailbox} (named : s.registry.find? s.listener.filter = some id)
    (here : s.registry.made[id]? = some ⟨s.listener.filter, .queue box⟩) :
    s.mail = box.pending := by
  simp [mail, named, here, waitingAt]

/-- A listener that is woken runs. -/
theorem wake_woken (link : LinkAnswers σ) {pending : List Message} {w : Waiter}
    (stage : s.stage = .waiting id)
    (here : s.registry.made[id]? = some ⟨s.listener.filter, .queue ⟨pending, [], [w]⟩⟩) :
    ∃ s', s.step? link (.wake .origin (.resume w.id)) = some s' ∧ Fetched s id pending s' := by
  cases pending with
  | nil =>
    exact ⟨_, by simp [step?, stage, Mailbox.Event.isWaking, mail?, here, Subscription.mail?,
      Mailbox.step?, Mailbox.arrive], .asleep w⟩
  | cons m rest =>
    exact ⟨_, by simp [step?, stage, Mailbox.Event.isWaking, mail?, here, Subscription.mail?,
      Mailbox.step?, Mailbox.arrive, hear, Listening.hear], .message m rest⟩

/-- Nothing else has come, and the same filters are in use. -/
structure SameNews (s s' : Hearing σ) : Prop where
  routed : s'.routed = s.routed
  matched : s'.matched = s.matched
  table : s'.registry.table = s.registry.table

theorem SameNews.trans {s'' : Hearing σ} (first : SameNews s s') (second : SameNews s' s'') :
    SameNews s s'' :=
  ⟨second.routed.trans first.routed, second.matched.trans first.matched,
    second.table.trans first.table⟩

/-- A state that the listener reaches by itself, and in which it has no more to print. -/
def CaughtUp (link : LinkAnswers σ) (s s' : Hearing σ) : Prop :=
  (∃ moves, (∀ move ∈ moves, Move.isOwn move = true) ∧ s.run? link moves = some s') ∧
    SameNews s s' ∧ (s'.mail = [] ∨ s'.listener.wantsMore = false)

theorem CaughtUp.here (done : s.mail = [] ∨ s.listener.wantsMore = false) : CaughtUp link s s :=
  ⟨⟨[], by simp, rfl⟩, ⟨rfl, rfl, rfl⟩, done⟩

theorem CaughtUp.after {next : Hearing σ} (move : Move σ) (own : move.isOwn = true)
    (first : s.step? link move = some next) (same : SameNews s next)
    (caught : CaughtUp link next s') : CaughtUp link s s' := by
  obtain ⟨⟨moves, isOwn, run⟩, same', done⟩ := caught
  refine ⟨⟨move :: moves, ?_, ?_⟩, same.trans same', done⟩
  · intro other h
    rcases List.mem_cons.mp h with rfl | rest
    · exact own
    · exact isOwn other rest
  · exact foldlM_cons_eq_some.mpr ⟨next, first, run⟩

/-- A listener that gets a message has one less before it. -/
theorem Fetched.message_inv {box : Mailbox} {m : Message} {rest : List Message}
    (named : s.registry.find? s.listener.filter = some id)
    (here : s.registry.made[id]? = some ⟨s.listener.filter, .queue box⟩)
    (fetched : Fetched s id (m :: rest) s') :
    s'.stage = .looking ∧ s'.mail = rest ∧ SameNews s s' := by
  cases fetched with
  | message =>
    have inside := (List.getElem?_eq_some_iff.mp here).1
    have set := List.getElem?_set_self inside
      (a := Subscription.mk s.listener.filter (.queue ⟨rest, [], []⟩))
    have still : Registry.find? { s.registry with
      made := s.registry.made.set id ⟨s.listener.filter, .queue ⟨rest, [], []⟩⟩ }
        s.listener.filter = some id := named
    exact ⟨rfl, by simp [mail, still, set, waitingAt], rfl, rfl, rfl⟩

theorem Orderly.catchesUp_looking (orderly : s.Orderly usual) (link : LinkAnswers σ)
    (stage : s.stage = .looking) {pending : List Message} (waits : s.mail = pending) :
    ∃ s', CaughtUp link s s' := by
  induction pending generalizing s with
  | nil => exact ⟨s, .here (.inl waits)⟩
  | cons m rest ih =>
    obtain ⟨next, done, looked⟩ := orderly.look link stage .origin
    have orderly' := orderly.looked stage looked
    cases looked with
    | done sated => exact ⟨s, .here (.inr sated)⟩
    | fetched id pending _ named here wants fetched =>
      obtain rfl : pending = m :: rest := (mail_eq named here).symm.trans waits
      obtain ⟨stage', waits', same⟩ := fetched.message_inv named here
      obtain ⟨s', caught⟩ := ih orderly' stage' waits'
      exact ⟨s', .after (.proceed .origin) rfl done same caught⟩

/-- Left to itself the listener prints all that waits for it, or as much as was asked for. -/
theorem Orderly.catchesUp (orderly : s.Orderly usual) (link : LinkAnswers σ)
    (listening : s.stage.isListening = true) :
    ∃ s', CaughtUp link s s' := by
  rcases stage : s.stage with rest | ⟨call, rest⟩ | _ | id | ⟨⟨⟩⟩
  · rw [stage] at listening
    cases listening
  · rw [stage] at listening
    cases listening
  · exact orderly.catchesUp_looking link stage rfl
  · obtain ⟨named, wants⟩ := orderly.calls id stage
    obtain ⟨box, here, attended⟩ := orderly.mailbox named
    have waits := mail_eq named here
    rw [stage] at attended
    generalize ha : Stage.awaits id (.waiting id) = awaited at attended
    cases attended with
    | idle pending => simp [Stage.awaits] at ha
    | asleep w => exact ⟨s, .here (.inl waits)⟩
    | woken pending w =>
      cases pending with
      | nil => exact ⟨s, .here (.inl waits)⟩
      | cons m rest =>
        obtain ⟨next, done, fetched⟩ := wake_woken link stage here
        obtain ⟨stage', waits', same⟩ := fetched.message_inv named here
        obtain ⟨s', caught⟩ := (orderly.step? done).catchesUp_looking link stage' waits'
        exact ⟨s', .after (.wake .origin (.resume w.id)) rfl done same caught⟩
  · rw [stage] at listening
    cases listening
  · exact ⟨s, .here (.inr (orderly.ended stage))⟩

/-- What the listener prints of what comes. -/
structure Prints (usual : String) (s : Hearing σ) : Prop where
  /-- What is printed, then what is still to be printed: all that went to its subscription, in the
  order in which it came. -/
  inOrder : s.listener.printed ++ s.mail ++ s.inHand =
    (s.routed.filter fun r => r.target = s.registry.find? s.listener.filter).map (·.message)
  target_iff : ∀ r ∈ s.routed, r.target = s.registry.find? s.listener.filter ↔
    s.listener.filter ∈ r.filters ∧ filterMatches s.listener.filter r.message.topic = true ∧
      ¬ s.Kept usual r
  whole : (∀ r ∈ s.routed, ¬ s.Kept usual r) →
    s.listener.printed ++ s.mail ++ s.inHand = s.matching
  /-- The usual filter keeps at least what comes on a topic of its own text. -/
  loses : ∀ r ∈ s.routed, r.message.topic = usual → usual ∈ r.filters →
    s.listener.filter ≠ usual → s.Kept usual r
  within : ∀ n ∈ s.listener.limit, s.listener.printed.length ≤ n.toNat
  /-- It ends for one reason only. -/
  ended : ∀ result, s.stage = .over result →
    result = .ok () ∧ ∃ n ∈ s.listener.limit, s.listener.printed.length = n.toNat

theorem Orderly.prints (orderly : s.Orderly usual)
    (inUse : s.registry.contains s.listener.filter = true) : Prints usual s := by
  obtain ⟨id, named⟩ := Option.isSome_iff_exists.mp inUse
  obtain ⟨box, here, -⟩ := orderly.mailbox named
  have going := orderly.setUp.going inUse
  have own := orderly.setUp.sound.made_of_find? named
  have inOrder : s.listener.printed ++ s.mail ++ s.inHand =
      (s.routed.filter fun r => r.target = s.registry.find? s.listener.filter).map (·.message) := by
    have accounts := orderly.accounts id _ here rfl
    rw [sentTo_routed] at accounts
    simpa [mail, inHand, named, here] using accounts
  have target_iff : ∀ r ∈ s.routed, r.target = s.registry.find? s.listener.filter ↔
      s.listener.filter ∈ r.filters ∧ filterMatches s.listener.filter r.message.topic = true ∧
        ¬ s.Kept usual r := by
    intro r known
    rw [named]
    constructor
    · intro target
      obtain ⟨taker, taken⟩ := orderly.matches_of_target named known target
      refine ⟨taker, taken, fun ⟨other, _, _, _, j, target', made⟩ => ?_⟩
      cases target'.symm.trans target
      exact other (own.unique made)
    · rintro ⟨taker, taken, unkept⟩
      exact (orderly.target_of_matches named known taker taken).resolve_right unkept
  refine ⟨inOrder, target_iff, fun unkept => ?_, ?_, orderly.within, ?_⟩
  · rw [inOrder, matching]
    refine congrArg _ (List.filter_congr fun r known => ?_)
    rw [Bool.eq_iff_iff]
    simp [target_iff r known, unkept r known]
  · rintro r known rfl inUse other
    have chosen := orderly.chosen r known
    obtain ⟨j, target, made⟩ := chosen.exact inUse
    obtain ⟨f, -, taken, made'⟩ := chosen.proper.taken j target
    obtain rfl := made'.unique made
    exact ⟨other, Ne.symm other, inUse, taken, j, target, made⟩
  · intro result stage
    cases result with
    | error fault =>
      rw [stage] at going
      cases going
    | ok done =>
      have sated := orderly.ended stage
      cases limit : s.listener.limit with
      | none => simp [Listening.wantsMore, limit] at sated
      | some n =>
        have reached : n.toNat ≤ s.listener.printed.length := by
          simpa [Listening.wantsMore, limit] using sated
        exact ⟨rfl, n, rfl, Nat.le_antisymm (orderly.within n limit) reached⟩

/-- A call that finds nothing goes to sleep, and gives up at its deadline. -/
theorem mail?_late (link : LinkAnswers σ)
    (here : s.registry.made[id]? = some ⟨s.listener.filter, .queue ⟨[], [], []⟩⟩)
    (now late : Instant) : ∃ next, s.mail? id now (.arrive ⟨0, some late⟩) = some next ∧
      next.step? link (.wake late (.expire 0)) = some ({ s with
        registry.made := s.registry.made.set id ⟨s.listener.filter, .queue ⟨[], [], []⟩⟩ }.hear
          (.error (.receiveTimeout s.listener.filter))) := by
  have inside := (List.getElem?_eq_some_iff.mp here).1
  have due : late ≤ late := Nat.le_refl late.toNanos
  refine ⟨_, mail?_arrive_empty here now _, ?_⟩
  simp [step?, Mailbox.Event.isWaking, mail?, inside, Subscription.mail?, Mailbox.step?,
    Mailbox.giveUp, due, hear, Listening.hear]

/-- With nothing else going on the listener makes of a look for a message what it makes of the
result of asking the registry. -/
theorem Orderly.look_alone (orderly : s.Orderly usual) (link : LinkAnswers σ)
    (stage : s.stage = .looking) (wants : s.listener.wantsMore = true)
    {result : Except Fault Message} {registry : Registry}
    (asked : s.registry.receive? s.listener.filter now (some pollInterval) =
      some (result, registry)) :
    ∃ moves, (∀ move ∈ moves, Move.isOwn move = true) ∧
      s.run? link moves = some ({ s with registry }.hear result) := by
  obtain ⟨id, named⟩ := orderly.setUp.named (by rw [stage]; rfl) (by rw [stage]; rfl)
  obtain ⟨box, here, attended⟩ := orderly.mailbox named
  have get := Registry.get_eq_ok.mpr named
  have looks : s.step? link (.proceed now) =
      s.mail? id now (.arrive ⟨0, now.after? pollInterval⟩) := by
    simp only [Hearing.step?, Hearing.proceed?, stage, wants, if_true, get]
  rw [Registry.receive?, get] at asked
  obtain ⟨sub, here', rest⟩ := Option.bind_eq_some_iff.mp asked
  obtain rfl := Option.some.inj (here.symm.trans here')
  obtain ⟨⟨result', sub'⟩, took, eq⟩ := Option.bind_eq_some_iff.mp rest
  obtain ⟨rfl, rfl⟩ := Prod.mk.inj (Option.some.inj eq)
  rw [stage] at attended
  generalize ha : Stage.looking.awaits id = awaited at attended
  cases attended with
  | idle pending =>
    cases pending with
    | cons m rest =>
      rw [Subscription.take?_waiting] at took
      obtain ⟨rfl, rfl⟩ := Prod.mk.inj (Option.some.inj took)
      refine ⟨[.proceed now], by simp [Move.isOwn], ?_⟩
      rw [run?, List.foldlM_cons, looks]
      simp [mail?, here, Subscription.mail?, Mailbox.step?, Mailbox.arrive]
    | nil =>
      rw [Subscription.take?_empty, Option.bind_eq_bind, Option.bind_some] at took
      generalize now.after? pollInterval = deadline at looks took
      obtain ⟨late, rfl, eq⟩ := Option.map_eq_some_iff.mp took
      obtain ⟨rfl, rfl⟩ := Prod.mk.inj eq
      refine ⟨[.proceed now, .wake late (.expire 0)], by simp [Move.isOwn], ?_⟩
      obtain ⟨next, slept, expired⟩ := mail?_late link here now late
      refine foldlM_cons_eq_some.mpr ⟨next, looks.trans slept, ?_⟩
      rw [List.foldlM_cons, expired]
      rfl
  | asleep w => cases ha
  | woken pending w => cases ha

theorem hear_listener (s : Hearing σ) (result : Except Fault Message) :
    ∃ printed, (s.hear result).listener = { s.listener with printed } := by
  rw [hear]
  cases result with
  | ok m => exact ⟨_, rfl⟩
  | error fault => cases fault <;> exact ⟨_, rfl⟩

theorem mail?_listener {e : Mailbox.Event} (h : s.mail? id now e = some s') :
    ∃ printed, s'.listener = { s.listener with printed } := by
  obtain ⟨sub, -, rest⟩ := Option.bind_eq_some_iff.mp h
  obtain ⟨⟨after, answers⟩, -, eq⟩ := Option.bind_eq_some_iff.mp rest
  cases answers with
  | nil =>
    cases eq
    exact ⟨_, rfl⟩
  | cons answer more =>
    cases eq
    exact hear_listener _ _

/-- The listener keeps to what it was started with. -/
theorem step?_listener {move : Move σ} (h : s.step? link move = some s') :
    ∃ printed, s'.listener = { s.listener with printed } := by
  cases move with
  | proceed now =>
    simp only [step?, Hearing.proceed?] at h
    split at h
    · cases h; exact ⟨_, rfl⟩
    · cases h; exact ⟨_, rfl⟩
    · cases h; exact ⟨_, rfl⟩
    · cases h; exact ⟨_, rfl⟩
    · cases h; exact ⟨_, rfl⟩
    · split at h
      · split at h
        · cases h; exact hear_listener _ _
        · exact mail?_listener h
      · cases h; exact ⟨_, rfl⟩
    · cases h
    · cases h
  | wake now e =>
    simp only [step?] at h
    split at h
    · split at h
      · exact mail?_listener h
      · cases h
    · cases h
  | route m =>
    simp only [step?] at h
    split at h
    · cases h; exact ⟨_, rfl⟩
    · cases h
  | handOver chosen =>
    obtain ⟨_, -, rfl⟩ := Option.map_eq_some_iff.mp h
    exact ⟨_, rfl⟩
  | relink l =>
    cases h
    exact ⟨_, rfl⟩
  | shuffle table =>
    simp only [step?] at h
    split at h
    · cases h; exact ⟨_, rfl⟩
    · cases h

theorem listener_of_run (h : s.run? link moves = some s') :
    ∃ printed, s'.listener = { s.listener with printed } := by
  refine foldlM_keeps
    (P := fun t : Hearing σ => ∃ printed, t.listener = { s.listener with printed }) ?_
    ⟨s.listener.printed, rfl⟩ h
  rintro t t' move ⟨printed, same⟩ step
  obtain ⟨printed', same'⟩ := step?_listener step
  exact ⟨printed', by rw [same', same]⟩

/-- Once the listener's filter is in use, it prints every message that its filter takes in and that
the usual filter does not keep, each once and in order, as fast as it is let; that no message comes
in time makes no difference. -/
theorem prints_unless_kept {filter : String} {limit : Option UInt64}
    (run : (start usual filter limit l).run? link moves = some s)
    (inUse : s.registry.contains filter = true) :
    s.listener.filter = filter ∧ s.listener.limit = limit ∧ Prints usual s ∧
      (s.stage.isListening = true → ∃ s', CaughtUp link s s' ∧ Prints usual s') := by
  obtain ⟨printed, same⟩ := listener_of_run run
  have own : s.listener.filter = filter := by rw [same]; rfl
  have orderly := orderly_of_run run
  refine ⟨own, by rw [same]; rfl, orderly.prints (own.symm ▸ inUse), fun listening => ?_⟩
  obtain ⟨s', caught⟩ := orderly.catchesUp link listening
  have ⟨⟨_, _, more⟩, same', _⟩ := caught
  obtain ⟨printed', listener⟩ := listener_of_run more
  have orderly' := foldlM_keeps (fun orderly step => orderly.step? step) orderly more
  have inUse' : s'.registry.contains s'.listener.filter = true := by
    rw [listener, Registry.contains, Registry.find?, same'.table, own]
    exact inUse
  exact ⟨s', caught, orderly'.prints inUse'⟩

/-- The listener adds both filters and looks for a message. -/
def prepared : List (Move (List (Except Fault Unit))) := List.replicate 9 (.proceed .origin)

/-- The time of a call is up before a message comes; the next call is woken by one. -/
def waitedFor : List (Move (List (Except Fault Unit))) :=
  prepared ++ [.proceed .origin, .wake ⟨nanosPerSec, by decide⟩ (.expire 0), .proceed .origin,
    .route ⟨"A/B", [0x78]⟩, .handOver 0, .wake .origin (.resume 0), .proceed .origin]

theorem prints_unless_kept_waitedFor :
    ∃ s, (start "topic1" "A/#" (some 1) []).run? Traffic.scripted waitedFor = some s ∧
      s.registry.contains "A/#" = true ∧ s.listener.printed = [⟨"A/B", [0x78]⟩] ∧
      s.stage = .over (.ok ()) ∧ (∀ r ∈ s.routed, ¬ s.Kept "topic1" r) ∧ Prints "topic1" s := by
  obtain ⟨s, run, inUse, printed, ended, topics, own⟩ :
      ∃ s, (start "topic1" "A/#" (some 1) []).run? Traffic.scripted waitedFor = some s ∧
        s.registry.contains "A/#" = true ∧ s.listener.printed = [⟨"A/B", [0x78]⟩] ∧
        s.stage = .over (.ok ()) ∧ s.routed.map (·.message.topic) = ["A/B"] ∧
        s.listener.filter = "A/#" := ⟨_, rfl, by decide, rfl, rfl, rfl, rfl⟩
  refine ⟨s, run, inUse, printed, ended, ?_, (prints_unless_kept run inUse).2.2.1⟩
  rintro r known ⟨_, _, _, taken, _⟩
  have topic : r.message.topic ∈ s.routed.map (·.message.topic) := List.mem_map_of_mem known
  rw [topics, List.mem_singleton] at topic
  rw [topic] at taken
  exact absurd taken (by decide)

/-- The usual filter keeps the message on its own topic, and the listener waits on. -/
theorem not_prints_all :
    ¬ ∀ (usual filter : String) (limit : Option UInt64)
        (moves : List (Move (List (Except Fault Unit)))) (s : Hearing (List (Except Fault Unit))),
      (start usual filter limit []).run? Traffic.scripted moves = some s →
        s.registry.contains filter = true →
          s.listener.printed ++ s.mail ++ s.inHand = s.matching := by
  intro all
  have whole := all "A/B" "A/#" none
    (prepared ++ [.route ⟨"A/B", [0x78]⟩, .handOver 0, .proceed .origin]) _ rfl (by decide)
  exact absurd whole (by decide)

end Hearing

end Courier.CommandLine
