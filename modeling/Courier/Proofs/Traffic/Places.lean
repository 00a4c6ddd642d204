import Mathlib.Data.List.Nodup
import Courier.Proofs.Traffic.Mail

/-!
# Where a subscription is

A subscription that was made is in one place: it is in use, or a call that took it out has it, or
it was removed, or the rollback of a refused call displaced it. The place never multiplies, so one
whose adding succeeded and that nobody removed is lost only to such a rollback, and its messages
never are.
-/

namespace Courier

/-- Whether a call has the subscription and is not over. -/
def Change.carries (id : SubscriptionId) : Change → Bool
  | .takenOut _ j | .removeRefused _ j _ => id = j
  | _ => false

namespace Traffic

/-- Whether a call removed the subscription and succeeded. -/
def Call.hasRemoved (id : SubscriptionId) : Call → Bool
  | ⟨.remove _, .finished (.ok ()), some j⟩ => id = j
  | _ => false

/-- Whether a refused call left the subscription without its filter. -/
def Rollback.displaces (id : SubscriptionId) : Rollback → Bool
  | .freed _ (some j) | .broughtBack _ j (some _) => id = j
  | _ => false

variable {σ : Type} {link : LinkAnswers σ} {s s' : Traffic σ}

/-- How often the subscription is in use. -/
def uses (r : Registry) (id : SubscriptionId) : Nat := r.table.countP (·.2 = id)

def carriers (calls : List Call) (id : SubscriptionId) : Nat := calls.countP (·.stage.carries id)

def removals (calls : List Call) (id : SubscriptionId) : Nat := calls.countP (·.hasRemoved id)

def displacements (rollbacks : List Rollback) (id : SubscriptionId) : Nat :=
  rollbacks.countP (·.displaces id)

/-- The number of places that a subscription has to have. -/
def due (made : List Subscription) (id : Nat) : Nat := if id < made.length then 1 else 0

/-- A subscription has one place from when it is made. -/
def Placed (s : Traffic σ) (id : SubscriptionId) : Prop :=
  uses s.registry id + carriers s.calls id + removals s.calls id +
    displacements s.history.rollbacks id = due s.registry.made id

/-! ## Uses -/

theorem uses_entered (r : Registry) (f : String) (sub : Subscription) (id : Nat) :
    uses ⟨r.table ++ [(f, r.made.length)], r.made ++ [sub]⟩ id =
      uses r id + if r.made.length = id then 1 else 0 := by
  rw [uses, List.countP_append, ← uses]
  by_cases h : r.made.length = id <;> simp [h]

theorem uses_erase {r : Registry} (sound : r.Sound) (f : String) (id : SubscriptionId) :
    uses (r.erase f) id + (if r.find? f = some id then 1 else 0) = uses r id := by
  have parts := List.countP_eq_countP_filter_add r.table (·.2 = id) (·.1 ≠ f)
  have erased : (r.table.filter fun entry => !decide (entry.1 ≠ f)).countP (·.2 = id) =
      r.table.count (f, id) := by
    rw [List.countP_filter]
    refine List.countP_congr fun entry _ => ?_
    simp [Prod.ext_iff, and_comm]
  rw [erased, (List.Nodup.of_map _ sound.distinct).count] at parts
  simp only [sound.find?_iff]
  exact parts.symm

theorem uses_putBack (r : Registry) (f : String) (id j : SubscriptionId) :
    uses (r.putBack f j) id = uses r id + if r.find? f = none ∧ j = id then 1 else 0 := by
  rw [Registry.putBack]
  split
  · rename_i taken
    obtain ⟨other, found⟩ := Option.isSome_iff_exists.mp taken
    simp [found]
  · rename_i taken
    have free := (Registry.contains_eq_false_iff r f).mp (Bool.not_eq_true _ ▸ taken)
    rw [uses, List.countP_append, ← uses]
    by_cases h : j = id <;> simp [h, free]

theorem due_snoc (made : List Subscription) (sub : Subscription) (id : Nat) :
    due (made ++ [sub]) id = due made id + if made.length = id then 1 else 0 := by
  simp only [due, List.length_append, List.length_singleton]
  split <;> split <;> split <;> omega

theorem displacements_freed (rollbacks : List Rollback) (f : String) (named : Option SubscriptionId)
    (id : SubscriptionId) :
    displacements (rollbacks ++ [.freed f named]) id =
      displacements rollbacks id + if named = some id then 1 else 0 := by
  rw [displacements, List.countP_append, ← displacements]
  cases named with
  | none => simp [Rollback.displaces]
  | some j => simp [Rollback.displaces, List.countP_cons, eq_comm]

theorem displacements_broughtBack (rollbacks : List Rollback) (f : String)
    (named : Option SubscriptionId) (j id : SubscriptionId) :
    displacements (rollbacks ++ [.broughtBack f j named]) id =
      displacements rollbacks id + if named ≠ none ∧ j = id then 1 else 0 := by
  rw [displacements, List.countP_append, ← displacements]
  cases named with
  | none => simp [Rollback.displaces]
  | some other => simp [Rollback.displaces, List.countP_cons, eq_comm]

/-! ## Every step keeps the place -/

/-- Who has a subscription, or had it to the end, when one call moves on. -/
theorem places_put {i : Nat} {asked stage : Change} {entry : Option SubscriptionId}
    (here : s.calls[i]? = some ⟨asked, stage, entry⟩) (id : SubscriptionId) (stage' : Change)
    (entry' : Option SubscriptionId) :
    carriers (s.put i asked stage' entry').calls id +
        removals (s.put i asked stage' entry').calls id +
        ((stage.carries id).toNat + (Call.hasRemoved id ⟨asked, stage, entry⟩).toNat) =
      carriers s.calls id + removals s.calls id +
        ((stage'.carries id).toNat + (Call.hasRemoved id ⟨asked, stage', entry'⟩).toNat) := by
  have carried := countP_moved here (·.stage.carries id) ⟨asked, stage', entry'⟩
  have removed := countP_moved here (·.hasRemoved id) ⟨asked, stage', entry'⟩
  simp only [carriers, removals, put] at carried removed ⊢
  omega

theorem placed_of_turn (sound : s.Sound) {i : Nat} {asked stage : Change}
    {entry : Option SubscriptionId} (here : s.calls[i]? = some ⟨asked, stage, entry⟩)
    (turn : Turn s i asked entry stage s') {id : SubscriptionId} (placed : s.Placed id) :
    s'.Placed id := by
  have places := places_put here id
  have coherent := sound.coherent _ (List.mem_of_getElem? here)
  rw [Placed] at placed ⊢
  -- each turn leaves the subscription where it is or moves it from one of the places to another
  cases turn with
  | turnedAway g q d fault reason =>
    have moved := places (.finished (.error fault)) entry
    simp only [Change.carries, Call.hasRemoved, Bool.toNat_false, Nat.add_zero] at moved
    simp only [put_registry, put_history]
    omega
  | entered g q d valid free =>
    have moved := places (.entered g q) (some s.registry.made.length)
    simp only [Change.carries, Call.hasRemoved, Bool.toNat_false, Nat.add_zero] at moved
    simp only [put_history, uses_entered, due_snoc]
    omega
  | subscribed g q l =>
    have moved := places (.finished (.ok ())) entry
    cases coherent
    simp only [Change.carries, Call.hasRemoved, Bool.toNat_false, Nat.add_zero] at moved
    simp only [put_registry, put_history]
    omega
  | refusedAdd g q l fault =>
    have moved := places (.addRefused g fault) entry
    simp only [Change.carries, Call.hasRemoved, Bool.toNat_false, Nat.add_zero] at moved
    simp only [put_registry, put_history]
    omega
  | freed g fault =>
    have moved := places (.finished (.error fault)) entry
    have u := uses_erase sound.registry g id
    simp only [Change.carries, Call.hasRemoved, Bool.toNat_false, Nat.add_zero] at moved
    simp only [displacements_freed, Registry.made_erase]
    omega
  | notThere g fault absent =>
    have moved := places (.finished (.error fault)) entry
    simp only [Change.carries, Call.hasRemoved, Bool.toNat_false, Nat.add_zero] at moved
    simp only [put_registry, put_history]
    omega
  | takenOut g j found =>
    have moved := places (.takenOut g j) (some j)
    have u := uses_erase sound.registry g id
    simp only [Change.carries, Call.hasRemoved, Bool.toNat_false, Nat.add_zero] at moved
    simp only [put_history, Registry.made_erase]
    by_cases same : j = id
    · subst same
      simp only [found, decide_true, Bool.toNat_true, ↓reduceIte] at moved u
      omega
    · simp only [found, same, Ne.symm same, decide_false, Bool.toNat_false, Nat.add_zero,
        Option.some.injEq, ↓reduceIte] at moved u
      omega
  | unsubscribed g j l =>
    have moved := places (.finished (.ok ())) entry
    cases coherent
    simp only [Change.carries, Call.hasRemoved, Bool.toNat_false, Nat.add_zero] at moved
    simp only [put_registry, put_history]
    omega
  | refusedRemove g j l fault =>
    have moved := places (.removeRefused g j fault) entry
    simp only [Change.carries, Call.hasRemoved, Bool.toNat_false, Nat.add_zero] at moved
    simp only [put_registry, put_history]
    omega
  | broughtBack g j fault =>
    have moved := places (.finished (.error fault)) entry
    have u := uses_putBack s.registry g id j
    simp only [Change.carries, Call.hasRemoved, Bool.toNat_false, Nat.add_zero] at moved
    simp only [displacements_broughtBack, Registry.made_putBack]
    by_cases same : j = id
    · subst same
      simp only [decide_true, Bool.toNat_true, and_true] at moved u ⊢
      cases named : s.registry.find? g with
      | none =>
        simp only [named, ne_eq, not_true_eq_false, ↓reduceIte] at u ⊢
        omega
      | some other =>
        simp only [named, ne_eq, reduceCtorEq, not_false_eq_true, ↓reduceIte] at u ⊢
        omega
    · simp only [same, Ne.symm same, decide_false, Bool.toNat_false, and_false, ↓reduceIte]
        at moved u ⊢
      omega

theorem Step.placed (sound : s.Sound) (step : Step s s') {id : SubscriptionId}
    (placed : s.Placed id) : s'.Placed id := by
  cases step with
  | begun asked isAsked =>
    have unmoved : carriers (s.begin asked).calls id = carriers s.calls id ∧
        removals (s.begin asked).calls id = removals s.calls id := by
      cases asked with
      | add g q d => simp [begin, carriers, removals, Change.carries, Call.hasRemoved]
      | remove g => simp [begin, carriers, removals, Change.carries, Call.hasRemoved]
      | _ => cases isAsked
    rw [Placed, unmoved.1, unmoved.2]
    exact placed
  | turned i asked stage entry s' here turn => exact placed_of_turn sound here turn placed
  | aside s' aside =>
    have longer := congrArg List.length aside.filters
    rw [List.length_map, List.length_map] at longer
    rw [Placed, aside.calls, aside.rollbacks, uses, aside.table.countP_eq, ← uses, due, longer]
    exact placed

variable {l : σ} {moves : List (Move σ)}

theorem placed_of_run (run : (start l).run? link moves = some s) (id : SubscriptionId) :
    s.Placed id := by
  refine keeps_of_run (P := fun s => s.Placed id) ?_ rfl run
  intro s s' move sound placed step
  exact (step?_step step).placed sound placed

/-! ## Subscriptions that ought to last -/

/-- The call that entered it succeeded, and none that took it out did. -/
structure Lasting (s : Traffic σ) (f : String) (entry : Option SubscriptionId) : Prop where
  added : ∃ g d, ⟨.add f g d, .finished (.ok ()), entry⟩ ∈ s.calls
  unremoved : ⟨.remove f, .finished (.ok ()), entry⟩ ∉ s.calls

variable {f : String} {id : SubscriptionId}

theorem carriers_of_quiet (sound : s.Sound) (quiet : s.QuietOn f) (made : s.registry.Made f id) :
    carriers s.calls id = 0 := by
  refine List.countP_eq_zero.mpr fun c hc carries => quiet c hc ?_
  cases sound.coherent c hc with
  | takenOut g j made' =>
    obtain rfl : id = j := of_decide_eq_true carries
    exact congrArg some (made'.unique made)
  | removeRefused g j fault made' =>
    obtain rfl : id = j := of_decide_eq_true carries
    exact congrArg some (made'.unique made)
  | _ => cases carries

theorem removals_of_lasting (sound : s.Sound) (made : s.registry.Made f id)
    (unremoved : ⟨.remove f, .finished (.ok ()), some id⟩ ∉ s.calls) :
    removals s.calls id = 0 := by
  refine List.countP_eq_zero.mpr fun c hc removed => unremoved ?_
  rw [Call.hasRemoved.eq_def] at removed
  split at removed
  · rename_i g j
    obtain rfl : id = j := of_decide_eq_true removed
    cases sound.coherent _ hc with
    | finished asked g' result entry filter made' succeeded =>
      obtain rfl := Option.some.inj filter
      exact (made' id rfl).unique made ▸ hc
  · cases removed

theorem uses_pos_iff (sound : s.Sound) (made : s.registry.Made f id) :
    0 < uses s.registry id ↔ s.registry.find? f = some id := by
  rw [uses, List.countP_pos_iff, sound.registry.find?_iff]
  constructor
  · rintro ⟨⟨g, j⟩, h, same⟩
    obtain rfl : j = id := of_decide_eq_true same
    exact (sound.registry.named _ h).unique made ▸ h
  · intro h
    exact ⟨_, h, decide_eq_true rfl⟩

/-- Its messages last in any case, and it stays in use unless a refused call displaced it. -/
theorem lasting_unless_displaced (run : (start l).run? link moves = some s) (quiet : s.QuietOn f)
    {entry : Option SubscriptionId} (lasting : s.Lasting f entry) :
    ∃ id sub, entry = some id ∧ s.registry.made[id]? = some sub ∧ sub.filter = f ∧
      sub.Accounts (sentTo id s.post.returned) (sentTo id s.post.delivered) ∧
      (s.registry.find? f = some id ↔ ∀ r ∈ s.history.rollbacks, r.displaces id = false) := by
  have sound := sound_of_run run
  obtain ⟨g, d, added⟩ := lasting.added
  have coherent := sound.coherent _ added
  cases coherent with
  | finished asked f' result entry filter made succeeded =>
    obtain rfl := Option.some.inj filter
    obtain ⟨id, rfl⟩ := Option.isSome_iff_exists.mp (succeeded rfl)
    have made := made id rfl
    have ⟨d', found⟩ := made
    refine ⟨id, _, rfl, found, rfl, (inOrder_of_run run).accounts id _ found, ?_⟩
    have placed := placed_of_run run id
    rw [Placed, carriers_of_quiet sound quiet made,
      removals_of_lasting sound made lasting.unremoved, due, if_pos made.lt] at placed
    have displaced : displacements s.history.rollbacks id = 0 ↔
        ∀ r ∈ s.history.rollbacks, r.displaces id = false := by
      simp [displacements, List.countP_eq_zero]
    rw [← uses_pos_iff sound made, ← displaced]
    omega

/-- An answer that refuses. -/
def refusal : Except Fault Unit := .error (.subscribeFailed "a" "")

/-- A call takes a subscription out with its message and has to bring it back. -/
def returnedInTime : List (Move (List (Except Fault Unit))) :=
  [.add "a" .usual (.queue .empty), .advance 0, .advance 0, .route ⟨"a", [0x48]⟩, .handOver 0 0,
    .remove "a", .advance 1, .advance 1, .advance 1]

theorem lasting_when_returned_in_time :
    ∃ s : Traffic (List (Except Fault Unit)),
      (start [.ok (), refusal]).run? scripted returnedInTime = some s ∧ s.QuietOn "a" ∧
        s.Lasting "a" (some 0) ∧
        ∃ id sub, some 0 = some id ∧ s.registry.made[id]? = some sub ∧ sub.filter = "a" ∧
          sub.Accounts (sentTo id s.post.returned) (sentTo id s.post.delivered) ∧
          (s.registry.find? "a" = some id ↔ ∀ r ∈ s.history.rollbacks, r.displaces id = false) := by
  obtain ⟨s, run, quiet, lasting⟩ : ∃ s : Traffic (List (Except Fault Unit)),
      (start [.ok (), refusal]).run? scripted returnedInTime = some s ∧ s.QuietOn "a" ∧
        s.Lasting "a" (some 0) := by
    refine ⟨_, rfl, by decide, ⟨_, _, .head _⟩, ?_⟩
    simp [start, begin, route]
  exact ⟨s, run, quiet, lasting, lasting_unless_displaced run quiet lasting⟩

/-- The subscription of the first call is taken out, and the refused call frees the filter that the
third call has entered. -/
def freedByAnother : List (Move (List (Except Fault Unit))) :=
  [.add "a" .usual (.queue .empty), .advance 0, .remove "a", .advance 1,
    .add "a" .usual (.queue .empty), .advance 2, .advance 2, .advance 0, .advance 0, .advance 1]

/-- A call takes a subscription out and cannot bring it back, since another call entered the filter
in between. -/
def takenMeanwhile : List (Move (List (Except Fault Unit))) :=
  [.add "a" .usual (.queue .empty), .advance 0, .advance 0, .remove "a", .advance 1,
    .add "a" .usual (.queue .empty), .advance 2, .advance 2, .advance 1, .advance 1]

theorem lost_to_refused_calls :
    (∃ s : Traffic (List (Except Fault Unit)),
      (start [.ok (), refusal, .ok ()]).run? scripted freedByAnother = some s ∧
        s.QuietOn "a" ∧ s.Lasting "a" (some 1) ∧ s.registry.find? "a" = none) ∧
    ∃ s : Traffic (List (Except Fault Unit)),
      (start [.ok (), .ok (), refusal]).run? scripted takenMeanwhile = some s ∧
        s.QuietOn "a" ∧ s.Lasting "a" (some 0) ∧ s.registry.find? "a" = some 1 := by
  constructor
  · refine ⟨_, rfl, by decide, ⟨⟨_, _, .tail _ (.tail _ (.head _))⟩, ?_⟩, rfl⟩
    simp [start, begin, gained?, Registry.empty]
  · refine ⟨_, rfl, by decide, ⟨⟨_, _, .head _⟩, ?_⟩, rfl⟩
    simp [start, begin]

end Traffic

end Courier
