import Courier.Proofs.Topic
import Courier.Registry

/-!
# What a registry names, and what changes that

Each operation of a registry, read through what its filters name before and after. No two entries of
a sound registry have the same filter, each names a subscription made for that filter, and no
subscription was ever made for a flawed one.
-/

namespace Courier

/-- To set an entry to what it is changes nothing. -/
theorem set_eq_self {α : Type} {l : List α} {i : Nat} {a : α} (here : l[i]? = some a) :
    l.set i a = l := by
  obtain ⟨inside, rfl⟩ := List.getElem?_eq_some_iff.mp here
  exact List.set_getElem_self inside

/-- To put one entry in place of another changes what a list holds by what these two hold. -/
theorem filterMap_set {α β : Type} (f : α → Option β) {l : List α} {i : Nat} {a : α}
    (here : l[i]? = some a) : ∃ others, (l.filterMap f).Perm ((f a).toList ++ others) ∧
      ∀ b, ((l.set i b).filterMap f).Perm ((f b).toList ++ others) := by
  obtain ⟨inside, -⟩ := List.getElem?_eq_some_iff.mp here
  have replaced (b : α) : ((l.set i b).filterMap f).Perm
      ((f b).toList ++ ((l.take i).filterMap f ++ (l.drop (i + 1)).filterMap f)) := by
    have split : (l.set i b).filterMap f =
        (l.take i).filterMap f ++ ((f b).toList ++ (l.drop (i + 1)).filterMap f) := by
      rw [List.set_eq_take_append_cons_drop, if_pos inside, List.filterMap_append]
      cases held : f b <;> simp [held]
    rw [split, ← List.append_assoc, ← List.append_assoc]
    exact List.perm_append_comm.append_right _
  exact ⟨_, by simpa only [set_eq_self here] using replaced a, replaced⟩

theorem filters_set {made : List Subscription} {id : SubscriptionId} {sub sub' : Subscription}
    (here : made[id]? = some sub) (same : sub'.filter = sub.filter) :
    (made.set id sub').map (·.filter) = made.map (·.filter) := by
  rw [List.map_set, same]
  exact set_eq_self (by rw [List.getElem?_map, here, Option.map_some])

namespace Registry

/-! ## What the filters name -/

theorem contains_eq_false_iff (r : Registry) (f : String) :
    r.contains f = false ↔ r.find? f = none := by
  rw [contains, Option.isSome_eq_false_iff, Option.isNone_iff_eq_none]

theorem find?_snoc (table : List (String × SubscriptionId)) (made : List Subscription)
    (f g : String) (id : SubscriptionId) :
    find? ⟨table ++ [(f, id)], made⟩ g =
      (table.lookup g).or (if g = f then some id else none) := by
  rw [find?, List.lookup_append, List.lookup_cons, List.lookup_nil]
  by_cases hg : g = f
  · simp [hg]
  · simp [hg, beq_false_of_ne hg]

@[simp] theorem find?_erase (r : Registry) (f g : String) :
    (r.erase f).find? g = if g = f then none else r.find? g := by
  obtain ⟨table, made⟩ := r
  simp only [erase, find?]
  induction table with
  | nil => simp
  | cons entry rest ih =>
    obtain ⟨h, id⟩ := entry
    by_cases hg : g = h
    · subst g
      by_cases hf : h = f
      · simpa [hf] using ih
      · simp [hf]
    · have skip := beq_false_of_ne hg
      by_cases hf : h = f
      · simpa [hf, List.lookup_cons, hf ▸ skip] using ih
      · simpa [hf, List.lookup_cons, skip] using ih

theorem enter_eq_ok {r r' : Registry} {f : String} {d : Delivery} (h : r.enter f d = .ok r') :
    r.find? f = none ∧ r' = ⟨r.table ++ [(f, r.made.length)], r.made ++ [⟨f, d⟩]⟩ := by
  rw [enter] at h
  split at h
  · cases h
  · rename_i free
    exact ⟨(contains_eq_false_iff r f).mp (Bool.not_eq_true _ ▸ free), (Except.ok.inj h).symm⟩

theorem takeOut_eq_ok {r r' : Registry} {f : String} {id : SubscriptionId}
    (h : r.takeOut f = .ok (id, r')) : r.find? f = some id ∧ r' = r.erase f := by
  rw [takeOut] at h
  split at h
  · rename_i found
    cases h
    exact ⟨found, rfl⟩
  · cases h

theorem takeOut_eq_error {r : Registry} {f : String} {fault : Fault}
    (h : r.takeOut f = .error fault) : r.find? f = none := by
  rw [takeOut] at h
  split at h
  · cases h
  · assumption

theorem get_eq_ok {r : Registry} {f : String} {id : SubscriptionId} :
    r.get f = .ok id ↔ r.find? f = some id := by
  rw [get]
  cases r.find? f <;> simp

theorem find?_entered (r : Registry) (f g : String) (d : Delivery) (free : r.find? f = none) :
    find? ⟨r.table ++ [(f, r.made.length)], r.made ++ [⟨f, d⟩]⟩ g =
      if g = f then some r.made.length else r.find? g := by
  rw [find?_snoc]
  by_cases hg : g = f
  · rw [hg, show r.table.lookup f = none from free]
    simp
  · simp [find?, hg]

theorem find?_putBack (r : Registry) (f g : String) (id : SubscriptionId) :
    (r.putBack f id).find? g = if g = f then some ((r.find? f).getD id) else r.find? g := by
  rw [putBack]
  split
  · rename_i taken
    obtain ⟨other, found⟩ := Option.isSome_iff_exists.mp taken
    by_cases hg : g = f
    · simp [hg, found]
    · simp [hg]
  · rename_i taken
    have free := (contains_eq_false_iff r f).mp (Bool.not_eq_true _ ▸ taken)
    rw [find?_snoc]
    by_cases hg : g = f
    · rw [hg, free, show r.table.lookup f = none from free]
      simp
    · simp [find?, hg]

theorem contains_entered (r : Registry) (f g : String) (d : Delivery) (free : r.find? f = none) :
    contains ⟨r.table ++ [(f, r.made.length)], r.made ++ [⟨f, d⟩]⟩ g =
      (decide (g = f) || r.contains g) := by
  rw [contains, find?_entered r f g d free]
  by_cases hg : g = f <;> simp [hg, contains]

@[simp] theorem contains_erase (r : Registry) (f g : String) :
    (r.erase f).contains g = (decide (g ≠ f) && r.contains g) := by
  rw [contains, find?_erase]
  by_cases hg : g = f <;> simp [hg, contains]

@[simp] theorem contains_putBack (r : Registry) (f g : String) (id : SubscriptionId) :
    (r.putBack f id).contains g = (decide (g = f) || r.contains g) := by
  rw [contains, find?_putBack]
  by_cases hg : g = f <;> simp [hg, contains]

@[simp] theorem made_erase (r : Registry) (f : String) : (r.erase f).made = r.made := rfl

@[simp] theorem made_putBack (r : Registry) (f : String) (id : SubscriptionId) :
    (r.putBack f id).made = r.made := by
  rw [putBack]
  split <;> rfl

theorem mem_of_find? {r : Registry} {f : String} {id : SubscriptionId}
    (h : r.find? f = some id) : (f, id) ∈ r.table := by
  obtain ⟨before, after, split, -⟩ := List.lookup_eq_some_iff.mp h
  rw [split]
  exact List.mem_append_right _ List.mem_cons_self

theorem notMem_of_find? {r : Registry} {f : String} (h : r.find? f = none) :
    f ∉ r.table.map (·.1) := by
  intro hf
  obtain ⟨entry, he, rfl⟩ := List.mem_map.mp hf
  have other := List.lookup_eq_none_iff.mp h entry he
  simp at other

/-! ## Sound registries -/

/-- The subscription of an id has the filter. -/
def Made (r : Registry) (f : String) (id : SubscriptionId) : Prop :=
  ∃ d, r.made[id]? = some ⟨f, d⟩

theorem made_iff (r : Registry) (f : String) (id : SubscriptionId) :
    r.Made f id ↔ (r.made.map (·.filter))[id]? = some f := by
  rw [List.getElem?_map, Option.map_eq_some_iff]
  constructor
  · rintro ⟨d, hd⟩
    exact ⟨_, hd, rfl⟩
  · rintro ⟨s, hs, rfl⟩
    exact ⟨s.delivery, hs⟩

theorem Made.lt {r : Registry} {f : String} {id : SubscriptionId} (h : r.Made f id) :
    id < r.made.length := by
  obtain ⟨d, hd⟩ := h
  exact (List.getElem?_eq_some_iff.mp hd).1

theorem Made.unique {r : Registry} {f g : String} {id : SubscriptionId} (hf : r.Made f id)
    (hg : r.Made g id) : f = g := by
  obtain ⟨d, hd⟩ := hf
  obtain ⟨e, he⟩ := hg
  rw [hd] at he
  cases he
  rfl

structure Sound (r : Registry) : Prop where
  distinct : (r.table.map (·.1)).Nodup
  named : ∀ entry ∈ r.table, r.Made entry.1 entry.2
  flawless : ∀ s ∈ r.made, filterFlaw? s.filter = none

theorem Sound.find?_iff {r : Registry} (sound : r.Sound) (f : String) (id : SubscriptionId) :
    r.find? f = some id ↔ (f, id) ∈ r.table := by
  constructor
  · exact mem_of_find?
  · intro h
    obtain ⟨before, after, split⟩ := List.append_of_mem h
    refine List.lookup_eq_some_iff.mpr ⟨before, after, split, ?_⟩
    have distinct := sound.distinct
    rw [split, List.map_append, List.nodup_append] at distinct
    intro p hp
    have apart := distinct.2.2 p.1 (List.mem_map_of_mem hp) f (by simp)
    exact bne_iff_ne.mpr (Ne.symm apart)

theorem Sound.made_of_find? {r : Registry} (sound : r.Sound) {f : String} {id : SubscriptionId}
    (h : r.find? f = some id) : r.Made f id :=
  sound.named (f, id) (mem_of_find? h)

theorem Sound.flawless_of_mem {r : Registry} (sound : r.Sound) {entry : String × SubscriptionId}
    (h : entry ∈ r.table) : filterFlaw? entry.1 = none := by
  obtain ⟨d, hd⟩ := sound.named entry h
  exact sound.flawless _ (List.mem_of_getElem? hd)

theorem sound_empty : empty.Sound := by
  constructor <;> simp [empty]

theorem Sound.distinct_snoc {r : Registry} (sound : r.Sound) {f : String}
    (free : r.find? f = none) (id : SubscriptionId) :
    ((r.table ++ [(f, id)]).map (·.1)).Nodup := by
  rw [List.map_append, List.nodup_append]
  refine ⟨sound.distinct, by simp, ?_⟩
  intro g hg h hh
  have same : h = f := by simpa using hh
  rintro rfl
  exact notMem_of_find? free (same ▸ hg)

theorem Sound.entered {r : Registry} (sound : r.Sound) {f : String} (d : Delivery)
    (free : r.find? f = none) (valid : filterFlaw? f = none) :
    Sound ⟨r.table ++ [(f, r.made.length)], r.made ++ [⟨f, d⟩]⟩ where
  distinct := sound.distinct_snoc free _
  named := by
    intro entry h
    rcases List.mem_append.mp h with old | new
    · obtain ⟨e, he⟩ := sound.named entry old
      have inside := (List.getElem?_eq_some_iff.mp he).1
      exact ⟨e, (List.getElem?_append_left inside).trans he⟩
    · rw [List.mem_singleton.mp new]
      exact ⟨d, by simp⟩
  flawless := by
    intro s hs
    rcases List.mem_append.mp hs with old | new
    · exact sound.flawless s old
    · rw [List.mem_singleton.mp new]
      exact valid

theorem Sound.erase {r : Registry} (sound : r.Sound) (f : String) : (r.erase f).Sound where
  distinct := sound.distinct.sublist (List.filter_sublist.map _)
  named := fun entry h => sound.named entry (List.mem_filter.mp h).1
  flawless := sound.flawless

theorem Sound.putBack {r : Registry} (sound : r.Sound) {f : String} {id : SubscriptionId}
    (made : r.Made f id) : (r.putBack f id).Sound := by
  rw [Registry.putBack]
  split
  · exact sound
  · rename_i taken
    have free := (contains_eq_false_iff r f).mp (Bool.not_eq_true _ ▸ taken)
    constructor
    · exact sound.distinct_snoc free id
    · intro entry h
      rcases List.mem_append.mp h with old | new
      · exact sound.named entry old
      · rw [List.mem_singleton.mp new]
        exact made
    · exact sound.flawless

/-- The order in which a table lists its entries does not matter. -/
theorem Sound.permuted {r : Registry} (sound : r.Sound) {table : List (String × SubscriptionId)}
    (perm : table.Perm r.table) : Sound { r with table } where
  distinct := (perm.map _).nodup_iff.mpr sound.distinct
  named := fun entry h => sound.named entry (perm.mem_iff.mp h)
  flawless := sound.flawless

theorem Sound.find?_permuted {r r' : Registry} (sound' : r'.Sound) (sound : r.Sound)
    (perm : r'.table.Perm r.table) (f : String) : r'.find? f = r.find? f := by
  ext id
  rw [sound'.find?_iff, sound.find?_iff]
  exact perm.mem_iff

/-- Subscriptions may come to hold other messages, as long as they keep their filters. -/
theorem Sound.kept {r : Registry} (sound : r.Sound) {made : List Subscription}
    (same : made.map (·.filter) = r.made.map (·.filter)) : Sound { r with made } := by
  refine ⟨sound.distinct, ?_, ?_⟩
  · intro entry h
    rw [made_iff, same, ← made_iff]
    exact sound.named entry h
  · intro s hs
    have kept : s.filter ∈ made.map (·.filter) := List.mem_map_of_mem hs
    rw [same] at kept
    obtain ⟨t, ht, ht'⟩ := List.mem_map.mp kept
    exact ht' ▸ sound.flawless t ht

end Registry

end Courier
