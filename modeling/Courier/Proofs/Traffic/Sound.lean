import Courier.Proofs.Traffic

/-!
# What every run keeps

A move either begins a call, or takes a call one step on, or leaves the calls and the names of the
registry alone. Along every run the registry stays sound, and what a call says of itself agrees with
the registry.
-/

namespace Courier

namespace Traffic

variable {σ : Type} {link : LinkAnswers σ} {s s' : Traffic σ}

/-! ## Moves -/

/-- What a call may be asked for. -/
def IsAsked : Change → Prop
  | .add _ _ delivery => delivery.isNew = true
  | .remove _ => True
  | _ => False

/-- A move that is no step of a call to add or to remove. -/
structure Aside (s s' : Traffic σ) : Prop where
  calls : s'.calls = s.calls
  table : s'.registry.table.Perm s.registry.table
  filters : s'.registry.made.map (·.filter) = s.registry.made.map (·.filter)
  accepted : s'.history.accepted = s.history.accepted
  rollbacks : s'.history.rollbacks = s.history.rollbacks

inductive Step (s : Traffic σ) : Traffic σ → Prop where
  | begun (asked : Change) (isAsked : IsAsked asked) : Step s (s.begin asked)
  | turned (i : Nat) (asked stage : Change) (entry : Option SubscriptionId) (s' : Traffic σ)
      (here : s.calls[i]? = some ⟨asked, stage, entry⟩) (turn : Turn s i asked entry stage s') :
    Step s s'
  | aside (s' : Traffic σ) (aside : Aside s s') : Step s s'

@[simp] theorem filter_accept (sub : Subscription) (m : Message) (chosen : Nat) :
    (sub.accept m chosen).filter = sub.filter := by
  rw [Subscription.accept]
  split <;> rfl

theorem filters_accept (made : List Subscription) (id : SubscriptionId) (m : Message)
    (chosen : Nat) :
    (made.modify id fun sub => sub.accept m chosen).map (·.filter) = made.map (·.filter) := by
  apply List.ext_getElem?
  intro j
  simp only [List.getElem?_map, List.getElem?_modify]
  cases made[j]? with
  | none => rfl
  | some sub => by_cases hj : id = j <;> simp [hj]

theorem filter_mail? {sub sub' : Subscription} {now : Instant} {e : Mailbox.Event}
    {answers : List Mailbox.Answer} (h : sub.mail? now e = some (sub', answers)) :
    sub'.filter = sub.filter := by
  rw [Subscription.mail?] at h
  split at h
  · obtain ⟨_, _, eq⟩ := Option.map_eq_some_iff.mp h
    cases eq
    rfl
  · cases h

theorem handOver_aside {place chosen : Nat} (h : s.handOver place chosen = some s') :
    Aside s s' := by
  rw [handOver] at h
  split at h
  · cases h
  · rename_i id m _
    cases h
    exact ⟨rfl, .refl _, filters_accept _ id m chosen, rfl, rfl⟩

/-- The parts of an event at a mailbox. -/
theorem mail_eq_some {id : SubscriptionId} {now : Instant} {e : Mailbox.Event}
    (h : s.mail id now e = some s') :
    ∃ sub sub' answers, s.registry.made[id]? = some sub ∧
      sub.mail? now e = some (sub', answers) ∧
      s' = { s with
        registry.made := s.registry.made.set id sub'
        history.answers := s.history.answers ++ answers.map (id, ·) } := by
  simp only [mail, Option.bind_eq_bind, Option.pure_def, Option.bind_eq_some_iff] at h
  obtain ⟨sub, found, ⟨sub', answers⟩, mailed, eq⟩ := h
  exact ⟨sub, sub', answers, found, mailed, (Option.some.inj eq).symm⟩

theorem mail_aside {id : SubscriptionId} {now : Instant} {e : Mailbox.Event}
    (h : s.mail id now e = some s') : Aside s s' := by
  obtain ⟨sub, sub', answers, found, mailed, rfl⟩ := mail_eq_some h
  exact ⟨rfl, .refl _, filters_set found (filter_mail? mailed), rfl, rfl⟩

theorem step?_step {move : Move σ} (h : s.step? link move = some s') : Step s s' := by
  cases move with
  | add f g d =>
    simp only [step?] at h
    split at h
    · rename_i isNew
      cases h
      exact .begun _ isNew
    · cases h
  | remove f =>
    cases h
    exact .begun _ trivial
  | advance i =>
    obtain ⟨asked, stage, entry, here, turn⟩ := advance_turn h
    exact .turned i asked stage entry s' here turn
  | relink l =>
    cases h
    exact .aside _ ⟨rfl, .refl _, rfl, rfl, rfl⟩
  | shuffle table =>
    simp only [step?] at h
    split at h
    · rename_i perm
      cases h
      exact .aside _ ⟨rfl, List.isPerm_iff.mp perm, rfl, rfl, rfl⟩
    · cases h
  | route m =>
    cases h
    exact .aside _ ⟨rfl, .refl _, rfl, rfl, rfl⟩
  | handOver place chosen => exact .aside _ (handOver_aside h)
  | receive id now timeout =>
    have aside := mail_aside h
    exact .aside _ ⟨aside.calls, aside.table, aside.filters, aside.accepted, aside.rollbacks⟩
  | wake id now e =>
    simp only [step?] at h
    split at h
    · exact .aside _ (mail_aside h)
    · cases h

/-! ## Soundness -/

/-- What a call says of itself agrees with what was made. -/
inductive Coherent (r : Registry) : Call → Prop where
  | add (f : String) (g : Guarantee) (d : Delivery) (isNew : d.isNew = true) :
    Coherent r ⟨.add f g d, .add f g d, none⟩
  | entered (f : String) (g : Guarantee) (d : Delivery) (id : SubscriptionId)
      (made : r.Made f id) : Coherent r ⟨.add f g d, .entered f g, some id⟩
  | addRefused (f : String) (g : Guarantee) (d : Delivery) (id : SubscriptionId) (fault : Fault)
      (made : r.Made f id) : Coherent r ⟨.add f g d, .addRefused f fault, some id⟩
  | remove (f : String) : Coherent r ⟨.remove f, .remove f, none⟩
  | takenOut (f : String) (id : SubscriptionId) (made : r.Made f id) :
    Coherent r ⟨.remove f, .takenOut f id, some id⟩
  | removeRefused (f : String) (id : SubscriptionId) (fault : Fault) (made : r.Made f id) :
    Coherent r ⟨.remove f, .removeRefused f id fault, some id⟩
  | finished (asked : Change) (f : String) (result : Except Fault Unit)
      (entry : Option SubscriptionId) (filter : asked.filter? = some f)
      (made : ∀ id ∈ entry, r.Made f id) (succeeded : result = .ok () → entry.isSome) :
    Coherent r ⟨asked, .finished result, entry⟩

/-- Whatever was made stays made for its filter. -/
def Grows (r r' : Registry) : Prop := ∀ f id, r.Made f id → r'.Made f id

theorem Coherent.grow {r r' : Registry} {c : Call} (h : Coherent r c) (grows : Grows r r') :
    Coherent r' c := by
  cases h with
  | add f g d isNew => exact .add f g d isNew
  | entered f g d id made => exact .entered f g d id (grows f id made)
  | addRefused f g d id fault made => exact .addRefused f g d id fault (grows f id made)
  | remove f => exact .remove f
  | takenOut f id made => exact .takenOut f id (grows f id made)
  | removeRefused f id fault made => exact .removeRefused f id fault (grows f id made)
  | finished asked f result entry filter made succeeded =>
    exact .finished asked f result entry filter (fun id hid => grows f id (made id hid)) succeeded

theorem grows_of_filters {r r' : Registry}
    (same : r'.made.map (·.filter) = r.made.map (·.filter)) : Grows r r' := by
  intro f id made
  rw [Registry.made_iff, same, ← Registry.made_iff]
  exact made

theorem grows_entered (r : Registry) (table : List (String × SubscriptionId)) (sub : Subscription) :
    Grows r ⟨table, r.made ++ [sub]⟩ := by
  rintro f id ⟨d, hd⟩
  have inside := (List.getElem?_eq_some_iff.mp hd).1
  exact ⟨d, (List.getElem?_append_left inside).trans hd⟩

theorem Turn.grows {i : Nat} {asked stage : Change} {entry : Option SubscriptionId}
    (turn : Turn s i asked entry stage s') : Grows s.registry s'.registry := by
  cases turn with
  | entered f g d valid free => exact grows_entered _ _ _
  | broughtBack f id fault => exact grows_of_filters (by rw [Registry.made_putBack])
  | _ => exact grows_of_filters rfl

theorem Step.grows (step : Step s s') : Grows s.registry s'.registry := by
  cases step with
  | begun asked isAsked => exact grows_of_filters rfl
  | turned i asked stage entry s' here turn => exact turn.grows
  | aside s' aside => exact grows_of_filters aside.filters

structure Sound (s : Traffic σ) : Prop where
  registry : s.registry.Sound
  coherent : ∀ c ∈ s.calls, Coherent s.registry c

theorem sound_start (l : σ) : (start l).Sound :=
  ⟨Registry.sound_empty, fun _ h => absurd h List.not_mem_nil⟩

theorem Sound.begun (sound : s.Sound) {asked : Change} (isAsked : IsAsked asked) :
    (s.begin asked).Sound := by
  refine ⟨sound.registry, ?_⟩
  intro c hc
  rcases List.mem_append.mp hc with old | new
  · exact sound.coherent c old
  · rw [List.mem_singleton.mp new]
    cases asked with
    | add f g d => exact .add f g d isAsked
    | remove f => exact .remove f
    | _ => cases isAsked

/-- The calls after a turn, if what was made is still there and the call itself is coherent. -/
theorem Sound.coherent_put (sound : s.Sound) {r : Registry} (grows : Grows s.registry r) {i : Nat}
    {new : Call} (coherent : Coherent r new) : ∀ c ∈ s.calls.set i new, Coherent r c := by
  intro c hc
  rcases List.mem_or_eq_of_mem_set hc with old | rfl
  · exact (sound.coherent c old).grow grows
  · exact coherent

theorem Sound.turned (sound : s.Sound) {i : Nat} {asked stage : Change}
    {entry : Option SubscriptionId} (here : s.calls[i]? = some ⟨asked, stage, entry⟩)
    (turn : Turn s i asked entry stage s') : s'.Sound := by
  have coherent := sound.coherent _ (List.mem_of_getElem? here)
  have grows := turn.grows
  cases turn with
  | turnedAway f g d fault reason =>
    cases coherent
    exact ⟨sound.registry, sound.coherent_put grows (.finished _ f _ _ rfl (by simp) nofun)⟩
  | entered f g d valid free =>
    cases coherent
    exact ⟨sound.registry.entered d free valid,
      sound.coherent_put grows (.entered f g d _ ⟨d, by simp⟩)⟩
  | subscribed f g l =>
    cases coherent with
    | entered f g d id made =>
      have kept : ∀ j ∈ some id, s.registry.Made f j := by simpa using made
      exact ⟨sound.registry, sound.coherent_put grows (.finished _ f _ _ rfl kept fun _ => rfl)⟩
  | refusedAdd f g l fault =>
    cases coherent with
    | entered f g d id made =>
      exact ⟨sound.registry, sound.coherent_put grows (.addRefused f g d id fault made)⟩
  | freed f fault =>
    cases coherent with
    | addRefused f g d id fault made =>
      have kept : ∀ j ∈ some id, (s.registry.erase f).Made f j := by simpa using grows f id made
      exact ⟨sound.registry.erase f,
        sound.coherent_put grows (.finished _ f _ _ rfl kept nofun)⟩
  | notThere f fault absent =>
    cases coherent
    exact ⟨sound.registry, sound.coherent_put grows (.finished _ f _ _ rfl (by simp) nofun)⟩
  | takenOut f id found =>
    cases coherent
    have made := sound.registry.made_of_find? found
    exact ⟨sound.registry.erase f, sound.coherent_put grows (.takenOut f id (grows f id made))⟩
  | unsubscribed f id l =>
    cases coherent with
    | takenOut f id made =>
      have kept : ∀ j ∈ some id, s.registry.Made f j := by simpa using made
      exact ⟨sound.registry, sound.coherent_put grows (.finished _ f _ _ rfl kept fun _ => rfl)⟩
  | refusedRemove f id l fault =>
    cases coherent with
    | takenOut f id made =>
      exact ⟨sound.registry, sound.coherent_put grows (.removeRefused f id fault made)⟩
  | broughtBack f id fault =>
    cases coherent with
    | removeRefused f id fault made =>
      have kept : ∀ j ∈ some id, (s.registry.putBack f id).Made f j := by
        simpa using grows f id made
      exact ⟨sound.registry.putBack made,
        sound.coherent_put grows (.finished _ f _ _ rfl kept nofun)⟩

theorem Sound.aside (sound : s.Sound) (aside : Aside s s') : s'.Sound where
  registry := (sound.registry.kept aside.filters).permuted aside.table
  coherent := by
    intro c hc
    rw [aside.calls] at hc
    exact (sound.coherent c hc).grow (grows_of_filters aside.filters)

theorem Sound.step? {move : Move σ} (sound : s.Sound) (h : s.step? link move = some s') :
    s'.Sound := by
  cases step?_step h with
  | begun asked isAsked => exact sound.begun isAsked
  | turned i asked stage entry s' here turn => exact sound.turned here turn
  | aside s' aside => exact sound.aside aside

variable {l : σ} {moves : List (Move σ)}

theorem sound_of_run (h : (start l).run? link moves = some s) : s.Sound :=
  foldlM_keeps Sound.step? (sound_start l) h

/-- What every move from a sound state keeps. -/
theorem keeps_of_run {P : Traffic σ → Prop}
    (keeps : ∀ {s s' move}, s.Sound → P s → s.step? link move = some s' → P s')
    (init : P (start l)) (h : (start l).run? link moves = some s) : P s :=
  (foldlM_keeps_both Sound.step? keeps ⟨sound_start l, init⟩ h).2

/-! ## Counting calls -/

/-- A count over the calls when one of them moves on. -/
theorem countP_moved {calls : List Call} {i : Nat} {old : Call} (here : calls[i]? = some old)
    (p : Call → Bool) (new : Call) :
    (calls.set i new).countP p + (p old).toNat = calls.countP p + (p new).toNat := by
  obtain ⟨inside, rfl⟩ := List.getElem?_eq_some_iff.mp here
  have counted : p calls[i] = true → 0 < calls.countP p := fun h =>
    List.countP_pos_iff.mpr ⟨_, List.getElem_mem inside, h⟩
  rw [List.countP_set inside]
  cases hold : p calls[i] <;> cases hnew : p new <;> simp_all

/-- No call on the filter is under way. -/
def QuietOn (s : Traffic σ) (f : String) : Prop := ∀ c ∈ s.calls, c.stage.filter? ≠ some f

instance (f : String) : Decidable (s.QuietOn f) :=
  inferInstanceAs (Decidable (∀ c ∈ s.calls, c.stage.filter? ≠ some f))

end Traffic

end Courier
