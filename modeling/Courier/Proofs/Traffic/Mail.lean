import Mathlib.Data.List.Basic
import Courier.Proofs.Routing

/-!
# Messages in order

A mailbox hands its messages out in the order in which they came, whoever asks and whether or not
their time is up. Along every run this holds of each subscription that was ever made, under whatever
name or none, and every call that waits is answered at most once.
-/

namespace Courier

namespace Mailbox

/-- The messages that an event brings. -/
def Event.messages : Event → List Message
  | .push m _ => [m]
  | _ => []

/-- The calls that an event brings. -/
def Event.calls : Event → List Nat
  | .arrive w => [w.id]
  | _ => []

/-- The calls that wait. -/
def waiting (b : Mailbox) : List Nat := (b.asleep ++ b.woken).map (·.id)

theorem arrive_messages (b : Mailbox) (w : Waiter) :
    (b.arrive w).2.filterMap (·.message) ++ (b.arrive w).1.pending = b.pending := by
  rw [arrive]
  split <;> simp_all

theorem giveUp_messages (b : Mailbox) (w : Waiter) :
    (b.giveUp w).2.filterMap (·.message) ++ (b.giveUp w).1.pending = b.pending := by
  rw [giveUp]
  split <;> simp_all

/-- What an event does, with the call that it concerns. -/
inductive Visit (b : Mailbox) : Event → Mailbox × List Answer → Prop where
  | pushed (m : Message) (chosen : Nat) : Visit b (.push m chosen) (b.push m chosen, [])
  | arrived (w : Waiter) : Visit b (.arrive w) (b.arrive w)
  | resumed (id : Nat) (w : Waiter) (known : w ∈ b.woken) :
    Visit b (.resume id) ({ b with woken := b.woken.erase w }.arrive w)
  | stirred (id : Nat) (w : Waiter) (known : w ∈ b.asleep) :
    Visit b (.stir id) ({ b with asleep := b.asleep.erase w }.arrive w)
  | expired (id : Nat) (w : Waiter) (known : w ∈ b.asleep) :
    Visit b (.expire id) ({ b with asleep := b.asleep.erase w }.giveUp w)

theorem step?_visit {b : Mailbox} {now : Instant} {e : Event} {r : Mailbox × List Answer}
    (h : b.step? now e = some r) : Visit b e r := by
  cases e with
  | push m chosen =>
    cases h
    exact .pushed m chosen
  | arrive w =>
    cases h
    exact .arrived w
  | resume id =>
    obtain ⟨w, found, eq⟩ := Option.bind_eq_some_iff.mp h
    cases eq
    exact .resumed id w (List.mem_of_find?_eq_some found)
  | stir id =>
    obtain ⟨w, found, eq⟩ := Option.bind_eq_some_iff.mp h
    cases eq
    exact .stirred id w (List.mem_of_find?_eq_some found)
  | expire id =>
    obtain ⟨w, found, timed⟩ := Option.bind_eq_some_iff.mp h
    obtain ⟨deadline, -, eq⟩ := Option.bind_eq_some_iff.mp timed
    split at eq
    · cases eq
      exact .expired id w (List.mem_of_find?_eq_some found)
    · cases eq

/-- Messages are taken from the front and added at the back. -/
theorem Visit.messages {b : Mailbox} {e : Event} {r : Mailbox × List Answer} (visit : Visit b e r) :
    r.2.filterMap (·.message) ++ r.1.pending = b.pending ++ e.messages := by
  cases visit with
  | pushed m chosen =>
    rw [push]
    split <;> rfl
  | arrived w => exact (arrive_messages b w).trans (List.append_nil _).symm
  | resumed id w known => exact (arrive_messages _ w).trans (List.append_nil _).symm
  | stirred id w known => exact (arrive_messages _ w).trans (List.append_nil _).symm
  | expired id w known => exact (giveUp_messages _ w).trans (List.append_nil _).symm

theorem arrive_waiting (b : Mailbox) (w : Waiter) :
    ((b.arrive w).2.map (·.id) ++ (b.arrive w).1.waiting).Perm (w.id :: b.waiting) := by
  rw [arrive]
  split
  · exact .refl _
  · simp only [waiting, List.map_nil, List.nil_append, List.map_append, List.map_cons,
      List.append_assoc]
    exact List.perm_middle

theorem giveUp_waiting (b : Mailbox) (w : Waiter) :
    ((b.giveUp w).2.map (·.id) ++ (b.giveUp w).1.waiting).Perm (w.id :: b.waiting) := by
  rw [giveUp]
  split <;> exact .refl _

theorem waiting_of_woken {b : Mailbox} {w : Waiter} (h : w ∈ b.woken) :
    (w.id :: { b with woken := b.woken.erase w }.waiting).Perm b.waiting := by
  have moved := (List.perm_cons_erase h).map (·.id)
  simp only [waiting, List.map_append]
  exact List.perm_middle.symm.trans (moved.symm.append_left _)

theorem waiting_of_asleep {b : Mailbox} {w : Waiter} (h : w ∈ b.asleep) :
    (w.id :: { b with asleep := b.asleep.erase w }.waiting).Perm b.waiting := by
  have moved := (List.perm_cons_erase h).map (·.id)
  simp only [waiting, List.map_append]
  exact moved.symm.append_right _

/-- Every call that comes is answered or waits on. -/
theorem Visit.waiting {b : Mailbox} {e : Event} {r : Mailbox × List Answer} (visit : Visit b e r) :
    (r.2.map (·.id) ++ r.1.waiting).Perm (e.calls ++ b.waiting) := by
  cases visit with
  | pushed m chosen =>
    rw [push]
    split
    · exact .refl _
    · rename_i w found
      have moved := List.perm_cons_erase (List.mem_of_getElem? found)
      have shifted : (b.asleep.erase w ++ (b.woken ++ [w])).Perm (b.asleep ++ b.woken) := by
        rw [← List.append_assoc]
        exact List.perm_append_comm.trans (moved.symm.append_right _)
      exact shifted.map _
  | arrived w => exact arrive_waiting b w
  | resumed id w known => exact (arrive_waiting _ w).trans (waiting_of_woken known)
  | stirred id w known => exact (arrive_waiting _ w).trans (waiting_of_asleep known)
  | expired id w known => exact (giveUp_waiting _ w).trans (waiting_of_asleep known)

end Mailbox

namespace Subscription

/-- The calls that wait at a subscription. -/
def waiting (sub : Subscription) : List Nat :=
  match sub.delivery with
  | .queue box => box.waiting
  | .callback _ => []

/-- What was returned and what waits make up what was delivered; a callback returns nothing. -/
def Accounts (sub : Subscription) (returned delivered : List Message) : Prop :=
  match sub.delivery with
  | .queue box => returned ++ box.pending = delivered
  | .callback _ => returned = []

theorem accounts_new {sub : Subscription} (isNew : sub.delivery.isNew = true) :
    sub.Accounts [] [] := by
  obtain ⟨f, box | handler⟩ := sub
  · have empty : box = .empty := of_decide_eq_true isNew
    subst empty
    rfl
  · rfl

theorem waiting_new {sub : Subscription} (isNew : sub.delivery.isNew = true) :
    sub.waiting = [] := by
  obtain ⟨f, box | handler⟩ := sub
  · have empty : box = .empty := of_decide_eq_true isNew
    subst empty
    rfl
  · rfl

theorem Accounts.accept {sub : Subscription} {returned delivered : List Message}
    (accounts : sub.Accounts returned delivered) (m : Message) (chosen : Nat) :
    (sub.accept m chosen).Accounts returned (delivered ++ [m]) := by
  obtain ⟨f, box | handler⟩ := sub
  · have pushed := (Mailbox.Visit.pushed (b := box) m chosen).messages
    simp only [Accounts, Subscription.accept] at accounts ⊢
    rw [← accounts, List.append_assoc]
    exact congrArg _ pushed
  · exact accounts

theorem waiting_accept (sub : Subscription) (m : Message) (chosen : Nat) :
    (sub.accept m chosen).waiting.Perm sub.waiting := by
  obtain ⟨f, box | handler⟩ := sub
  · exact (Mailbox.Visit.pushed (b := box) m chosen).waiting
  · exact .refl _

/-- The parts of an event at a subscription. -/
theorem mail?_eq_some {sub sub' : Subscription} {now : Instant} {e : Mailbox.Event}
    {answers : List Mailbox.Answer} (h : sub.mail? now e = some (sub', answers)) :
    ∃ f box box', sub = ⟨f, .queue box⟩ ∧ sub' = ⟨f, .queue box'⟩ ∧
      Mailbox.Visit box e (box', answers) := by
  obtain ⟨f, box | handler⟩ := sub
  · obtain ⟨⟨box', answers'⟩, stepped, eq⟩ := Option.map_eq_some_iff.mp h
    cases eq
    exact ⟨f, box, box', rfl, rfl, Mailbox.step?_visit stepped⟩
  · cases h

theorem Accounts.mail {sub sub' : Subscription} {now : Instant} {e : Mailbox.Event}
    {answers : List Mailbox.Answer} {returned delivered : List Message}
    (accounts : sub.Accounts returned delivered) (brings : e.messages = [])
    (h : sub.mail? now e = some (sub', answers)) :
    sub'.Accounts (returned ++ answers.filterMap (·.message)) delivered := by
  obtain ⟨f, box, box', rfl, rfl, visit⟩ := mail?_eq_some h
  have messages := visit.messages
  simp only [Accounts, brings, List.append_nil] at accounts messages ⊢
  rw [List.append_assoc, messages, accounts]

theorem waiting_mail {sub sub' : Subscription} {now : Instant} {e : Mailbox.Event}
    {answers : List Mailbox.Answer} (h : sub.mail? now e = some (sub', answers)) :
    (answers.map (·.id) ++ sub'.waiting).Perm (e.calls ++ sub.waiting) := by
  obtain ⟨f, box, box', rfl, rfl, visit⟩ := mail?_eq_some h
  exact visit.waiting

end Subscription

namespace Traffic

/-- What has to do with messages in a state. -/
structure Post where
  made : List Subscription
  matched : List (SubscriptionId × Message)
  routed : List Routing
  delivered : List (SubscriptionId × Message)
  answers : List (SubscriptionId × Mailbox.Answer)
  receivers : Nat

variable {σ : Type} {link : LinkAnswers σ} {s s' : Traffic σ}

def post (s : Traffic σ) : Post :=
  ⟨s.registry.made, s.matched, s.history.routed, s.history.delivered, s.history.answers,
    s.receivers⟩

/-- The subscription that a message goes to, with the message. -/
def Routing.sent? (r : Routing) : Option (SubscriptionId × Message) := r.target.map (·, r.message)

/-- What one step may do to the messages. -/
inductive Passage (p : Post) : Post → Prop where
  | kept : Passage p p
  | made (sub : Subscription) (isNew : sub.delivery.isNew = true) :
    Passage p { p with made := p.made ++ [sub] }
  | routed (routing : Routing) (known : ∀ id ∈ routing.target, id < p.made.length) :
    Passage p { p with
      matched := p.matched ++ routing.sent?.toList, routed := p.routed ++ [routing] }
  | handed (place chosen : Nat) (id : SubscriptionId) (m : Message)
      (here : p.matched[place]? = some (id, m)) :
    Passage p { p with
      made := p.made.modify id fun sub => sub.accept m chosen
      matched := p.matched.eraseIdx place
      delivered := p.delivered ++ [(id, m)] }
  | mailed (id : SubscriptionId) (now : Instant) (e : Mailbox.Event) (receivers : Nat)
      (sub sub' : Subscription) (answers : List Mailbox.Answer) (here : p.made[id]? = some sub)
      (mailed : sub.mail? now e = some (sub', answers)) (brings : e.messages = [])
      (calls : List.range receivers = List.range p.receivers ++ e.calls) :
    Passage p { p with
      made := p.made.set id sub'
      answers := p.answers ++ answers.map (id, ·)
      receivers }

theorem Sound.target?_lt (sound : s.Sound) {topic : String} {id : SubscriptionId}
    (h : s.registry.target? topic = some id) : id < s.registry.made.length := by
  obtain ⟨f, found, -⟩ := sound.registry.takes_of_target? h
  exact (sound.registry.made_of_find? found).lt

theorem mail_passage {id : SubscriptionId} {now : Instant} {e : Mailbox.Event} {receivers : Nat}
    (brings : e.messages = []) (calls : List.range receivers = List.range s.receivers ++ e.calls)
    (h : { s with receivers }.mail id now e = some s') : Passage s.post s'.post := by
  obtain ⟨sub, sub', answers, found, mailed, rfl⟩ := mail_eq_some h
  exact .mailed id now e receivers sub sub' answers found mailed brings calls

theorem turn_passage (sound : s.Sound) {i : Nat} {asked stage : Change}
    {entry : Option SubscriptionId} (here : s.calls[i]? = some ⟨asked, stage, entry⟩)
    (turn : Turn s i asked entry stage s') : Passage s.post s'.post := by
  cases turn with
  | entered f g d valid free =>
    cases sound.coherent _ (List.mem_of_getElem? here) with
    | add f g d isNew => exact .made ⟨f, d⟩ isNew
  | broughtBack f id fault =>
    have same : s.post = { s.post with made := (s.registry.putBack f id).made } := by
      rw [Registry.made_putBack]
      rfl
    exact same ▸ .kept
  | _ => exact .kept

theorem step?_passage (sound : s.Sound) {move : Move σ} (h : s.step? link move = some s') :
    Passage s.post s'.post := by
  cases move with
  | add f g d =>
    simp only [step?] at h
    split at h
    · cases h
      exact .kept
    · cases h
  | remove f =>
    cases h
    exact .kept
  | advance i =>
    obtain ⟨asked, stage, entry, here, turn⟩ := advance_turn h
    exact turn_passage sound here turn
  | relink l =>
    cases h
    exact .kept
  | shuffle table =>
    simp only [step?] at h
    split at h
    · cases h
      exact .kept
    · cases h
  | route m =>
    cases h
    exact Passage.routed (p := s.post) ⟨m, s.registry.table.map (·.1), s.registry.target? m.topic⟩
      fun id hid => sound.target?_lt hid
  | handOver place chosen =>
    simp only [step?, handOver] at h
    split at h
    · cases h
    · rename_i id m here
      cases h
      exact .handed place chosen id m here
  | receive id now timeout =>
    exact mail_passage rfl (List.range_succ) h
  | wake id now e =>
    simp only [step?] at h
    split at h
    · rename_i waking
      have brings : e.messages = [] := by cases e <;> first | rfl | cases waking
      have calls : e.calls = [] := by cases e <;> first | rfl | cases waking
      exact mail_passage brings (by rw [calls, List.append_nil]) h
    · cases h

/-! ## Each subscription in order -/

/-- The messages for one subscription. -/
def sentTo (id : SubscriptionId) (sent : List (SubscriptionId × Message)) : List Message :=
  sent.filterMap fun x => if x.1 = id then some x.2 else none

@[simp] theorem sentTo_append (id : SubscriptionId) (l r : List (SubscriptionId × Message)) :
    sentTo id (l ++ r) = sentTo id l ++ sentTo id r := List.filterMap_append

@[simp] theorem sentTo_singleton (id j : SubscriptionId) (m : Message) :
    sentTo id [(j, m)] = if j = id then [m] else [] := by
  by_cases h : j = id <;> simp [sentTo, h]

@[simp] theorem sentTo_map (id j : SubscriptionId) (messages : List Message) :
    sentTo id (messages.map (j, ·)) = if j = id then messages else [] := by
  rw [sentTo, List.filterMap_map]
  by_cases h : j = id <;> simp [h]

theorem sentTo_eq_nil {id : SubscriptionId} {sent : List (SubscriptionId × Message)}
    (h : ∀ x ∈ sent, x.1 ≠ id) : sentTo id sent = [] := by
  refine List.filterMap_eq_nil_iff.mpr fun x hx => ?_
  rw [if_neg (h x hx)]

namespace Post

/-- The messages that calls got, and where from. -/
def returned (p : Post) : List (SubscriptionId × Message) :=
  p.answers.filterMap fun x => x.2.message.map (x.1, ·)

theorem returned_map (id : SubscriptionId) (answers : List Mailbox.Answer) :
    ((answers.map (id, ·)).filterMap fun x => x.2.message.map (x.1, ·)) =
      (answers.filterMap (·.message)).map (id, ·) := by
  rw [List.filterMap_map, List.map_filterMap]
  rfl

/-- Every subscription accounts for what it was given, and nothing goes where there is none. -/
structure InOrder (p : Post) : Prop where
  accounts : ∀ (id : SubscriptionId) (sub : Subscription), p.made[id]? = some sub →
    sub.Accounts (sentTo id p.returned) (sentTo id p.delivered)
  matched : ∀ x ∈ p.matched, x.1 < p.made.length
  delivered : ∀ x ∈ p.delivered, x.1 < p.made.length
  returned : ∀ x ∈ p.returned, x.1 < p.made.length

theorem inOrder_start (l : σ) : (start l).post.InOrder := by
  constructor <;> simp [start, post, Registry.empty, returned]

variable {p : Post}

theorem InOrder.opened (inOrder : p.InOrder) {sub : Subscription}
    (isNew : sub.delivery.isNew = true) : InOrder { p with made := p.made ++ [sub] } := by
  have longer {n : Nat} (h : n < p.made.length) : n < (p.made ++ [sub]).length := by
    rw [List.length_append]
    omega
  refine ⟨?_, ?_, ?_, ?_⟩
  · intro id sub' found
    rcases Nat.lt_trichotomy id p.made.length with old | new | beyond
    · rw [List.getElem?_append_left old] at found
      exact inOrder.accounts id sub' found
    -- nothing was ever for a subscription that had still to be made
    · subst new
      rw [List.getElem?_concat_length] at found
      cases found
      have unreturned : sentTo p.made.length p.returned = [] :=
        sentTo_eq_nil fun x hx => Nat.ne_of_lt (inOrder.returned x hx)
      have undelivered : sentTo p.made.length p.delivered = [] :=
        sentTo_eq_nil fun x hx => Nat.ne_of_lt (inOrder.delivered x hx)
      rw [undelivered]
      exact unreturned ▸ Subscription.accounts_new isNew
    · rw [List.getElem?_eq_none (by simp; omega)] at found
      cases found
  · exact fun x hx => longer (inOrder.matched x hx)
  · exact fun x hx => longer (inOrder.delivered x hx)
  · exact fun x hx => longer (inOrder.returned x hx)

theorem InOrder.routed (inOrder : p.InOrder) {routing : Routing}
    (known : ∀ id ∈ routing.target, id < p.made.length) :
    InOrder { p with
      matched := p.matched ++ routing.sent?.toList, routed := p.routed ++ [routing] } := by
  refine ⟨inOrder.accounts, ?_, inOrder.delivered, inOrder.returned⟩
  intro x hx
  rcases List.mem_append.mp hx with old | new
  · exact inOrder.matched x old
  · obtain ⟨id, target, rfl⟩ := Option.map_eq_some_iff.mp (Option.mem_toList.mp new)
    exact known id target

theorem InOrder.handed (inOrder : p.InOrder) {place : Nat} (chosen : Nat) {id : SubscriptionId}
    {m : Message} (here : p.matched[place]? = some (id, m)) :
    InOrder { p with
      made := p.made.modify id fun sub => sub.accept m chosen
      matched := p.matched.eraseIdx place
      delivered := p.delivered ++ [(id, m)] } := by
  have inside := inOrder.matched _ (List.mem_of_getElem? here)
  refine ⟨?_, ?_, ?_, ?_⟩
  · intro j sub found
    rw [List.getElem?_modify] at found
    obtain ⟨old, was, eq⟩ := Option.map_eq_some_iff.mp found
    have accounts := inOrder.accounts j old was
    simp only [sentTo_append, sentTo_singleton]
    by_cases hj : id = j
    · simp only [hj, ↓reduceIte] at eq ⊢
      exact eq ▸ accounts.accept m chosen
    · simp only [hj, ↓reduceIte, List.append_nil] at eq ⊢
      exact eq ▸ accounts
  · intro x hx
    simpa using inOrder.matched x (List.mem_of_mem_eraseIdx hx)
  · intro x hx
    rcases List.mem_append.mp hx with old | new
    · simpa using inOrder.delivered x old
    · rw [List.mem_singleton.mp new]
      simpa using inside
  · intro x hx
    simpa using inOrder.returned x hx

theorem InOrder.mailed (inOrder : p.InOrder) {id : SubscriptionId} {now : Instant}
    {e : Mailbox.Event} (receivers : Nat) {sub sub' : Subscription}
    {answers : List Mailbox.Answer} (here : p.made[id]? = some sub)
    (mailed : sub.mail? now e = some (sub', answers)) (brings : e.messages = []) :
    InOrder { p with
      made := p.made.set id sub'
      answers := p.answers ++ answers.map (id, ·)
      receivers } := by
  have inside := (List.getElem?_eq_some_iff.mp here).1
  have returned_eq : Post.returned ⟨p.made.set id sub', p.matched, p.routed, p.delivered,
      p.answers ++ answers.map (id, ·), receivers⟩ =
        p.returned ++ (answers.filterMap (·.message)).map (id, ·) := by
    rw [Post.returned, List.filterMap_append, returned_map, ← Post.returned]
  refine ⟨?_, ?_, ?_, ?_⟩
  · intro j sub'' found
    rw [returned_eq, sentTo_append, sentTo_map]
    rw [List.getElem?_set] at found
    by_cases hj : id = j
    · subst hj
      simp only [↓reduceIte, inside] at found ⊢
      cases found
      exact (inOrder.accounts id sub here).mail brings mailed
    · simp only [hj, ↓reduceIte, List.append_nil] at found ⊢
      exact inOrder.accounts j sub'' found
  · intro x hx
    simpa using inOrder.matched x hx
  · intro x hx
    simpa using inOrder.delivered x hx
  · intro x hx
    rw [returned_eq] at hx
    rcases List.mem_append.mp hx with old | new
    · simpa using inOrder.returned x old
    · obtain ⟨m, -, rfl⟩ := List.mem_map.mp new
      simpa using inside

/-- Every call for a message was answered once or still waits. -/
def Counted (p : Post) : Prop :=
  (p.answers.map (·.2.id) ++ p.made.flatMap (·.waiting)).Perm (List.range p.receivers)

theorem flatMap_set_perm {made : List Subscription} {id : Nat} {sub : Subscription}
    (here : made[id]? = some sub) (sub' : Subscription) :
    (sub.waiting ++ (made.set id sub').flatMap (·.waiting)).Perm
      (sub'.waiting ++ made.flatMap (·.waiting)) := by
  induction made generalizing id with
  | nil => cases here
  | cons head rest ih =>
    cases id with
    | zero =>
      cases here
      exact List.perm_append_comm_assoc ..
    | succ n =>
      simp only [List.set_cons_succ, List.flatMap_cons]
      refine (List.perm_append_comm_assoc ..).trans ?_
      exact ((ih here).append_left head.waiting).trans (List.perm_append_comm_assoc ..)

theorem counted_start {σ : Type} (l : σ) : (start l).post.Counted := .refl _

theorem Counted.opened (counted : p.Counted) {sub : Subscription}
    (isNew : sub.delivery.isNew = true) : Counted { p with made := p.made ++ [sub] } := by
  rw [Counted, List.flatMap_append, List.flatMap_singleton, Subscription.waiting_new isNew,
    List.append_nil]
  exact counted

theorem Counted.handed (counted : p.Counted) {id : SubscriptionId} (m : Message) (chosen : Nat)
    (matched delivered : List (SubscriptionId × Message)) (inside : id < p.made.length) :
    Counted { p with
      made := p.made.modify id fun sub => sub.accept m chosen
      matched, delivered } := by
  have here := List.getElem?_eq_getElem inside
  have moved := flatMap_set_perm here (p.made[id].accept m chosen)
  have same := (Subscription.waiting_accept p.made[id] m chosen).append_right
    (p.made.flatMap (·.waiting))
  have unmoved := (List.perm_append_left_iff _).mp (moved.trans same)
  rw [Counted, List.modify_eq_set_getElem?, here]
  exact (unmoved.append_left _).trans counted

theorem Counted.mailed (counted : p.Counted) {id : SubscriptionId} {now : Instant}
    {e : Mailbox.Event} {receivers : Nat} {sub sub' : Subscription}
    {answers : List Mailbox.Answer} (here : p.made[id]? = some sub)
    (mailed : sub.mail? now e = some (sub', answers))
    (calls : List.range receivers = List.range p.receivers ++ e.calls) :
    Counted { p with
      made := p.made.set id sub'
      answers := p.answers ++ answers.map (id, ·)
      receivers } := by
  have moved := flatMap_set_perm here sub'
  have answered := Subscription.waiting_mail mailed
  have ids : (answers.map (id, ·)).map (·.2.id) = answers.map (·.id) := by
    rw [List.map_map]
    rfl
  rw [Counted, calls, List.map_append, ids]
  rw [Counted] at counted
  -- each call is counted on both sides, since the parts stand in another order on each
  rw [List.perm_iff_count] at moved answered counted ⊢
  intro call
  have moved := moved call
  have answered := answered call
  have counted := counted call
  simp only [List.count_append] at moved answered counted ⊢
  omega

end Post

theorem Passage.inOrder {p q : Post} (passage : Passage p q) (inOrder : p.InOrder) :
    q.InOrder := by
  cases passage with
  | kept => exact inOrder
  | made sub isNew => exact inOrder.opened isNew
  | routed routing known => exact inOrder.routed known
  | handed place chosen id m here => exact inOrder.handed chosen here
  | mailed id now e receivers sub sub' answers here mailed brings calls =>
    exact inOrder.mailed receivers here mailed brings

theorem Passage.counted {p q : Post} (passage : Passage p q) (inOrder : p.InOrder)
    (counted : p.Counted) : q.Counted := by
  cases passage with
  | kept => exact counted
  | made sub isNew => exact counted.opened isNew
  | routed routing known => exact counted
  | handed place chosen id m here =>
    exact counted.handed m chosen _ _ (inOrder.matched _ (List.mem_of_getElem? here))
  | mailed id now e receivers sub sub' answers here mailed brings calls =>
    exact counted.mailed here mailed calls

theorem Post.Counted.nodup {p : Post} (counted : p.Counted) : (p.answers.map (·.2.id)).Nodup :=
  (List.nodup_append.mp (counted.nodup_iff.mpr List.nodup_range)).1

variable {l : σ} {moves : List (Move σ)}

theorem inOrder_of_run (run : (start l).run? link moves = some s) : s.post.InOrder := by
  refine keeps_of_run (P := fun s => s.post.InOrder) ?_ (Post.inOrder_start l) run
  intro s s' move sound inOrder step
  exact (step?_passage sound step).inOrder inOrder

theorem counted_of_run (run : (start l).run? link moves = some s) : s.post.Counted := by
  have both := keeps_of_run (P := fun s => s.post.InOrder ∧ s.post.Counted) ?_
    ⟨Post.inOrder_start l, Post.counted_start l⟩ run
  · exact both.2
  · intro s s' move sound h step
    have passage := step?_passage sound step
    exact ⟨passage.inOrder h.1, passage.counted h.1 h.2⟩

/-! ## The choices of the table -/

/-- The table chose rightly among its filters: what it passed over did not match, and what it took
was made for a filter that did. -/
structure Routing.Proper (r : Registry) (routing : Routing) : Prop where
  dropped : routing.target = none →
    ∀ f ∈ routing.filters, filterMatches f routing.message.topic = false
  taken : ∀ id ∈ routing.target,
    ∃ f ∈ routing.filters, filterMatches f routing.message.topic = true ∧ r.Made f id

theorem Routing.Proper.grow {r r' : Registry} {routing : Routing} (proper : routing.Proper r)
    (grows : Grows r r') : routing.Proper r' := by
  refine ⟨proper.dropped, ?_⟩
  intro id target
  obtain ⟨f, inUse, passed, made⟩ := proper.taken id target
  exact ⟨f, inUse, passed, grows f id made⟩

theorem proper_route {r : Registry} (sound : r.Sound) (m : Message) :
    Routing.Proper r ⟨m, r.table.map (·.1), r.target? m.topic⟩ := by
  constructor
  · intro none f inUse
    obtain ⟨entry, known, rfl⟩ := List.mem_map.mp inUse
    have untaken := (Registry.target?_eq_none_iff sound m.topic).mp none entry.1
    exact Bool.eq_false_iff.mpr fun passed => untaken ⟨⟨_, sound.find?_entry known⟩, passed⟩
  · intro id target
    obtain ⟨f, found, passed⟩ := sound.takes_of_target? target
    exact ⟨f, List.mem_map_of_mem (Registry.mem_of_find? found), passed, sound.made_of_find? found⟩

/-- Whether a move looks a message up or hands one over. -/
def Move.isRouting : Move σ → Bool
  | .route _ | .handOver .. => true
  | _ => false

/-- A move that leaves the way of the messages alone. -/
structure OffRoute (s s' : Traffic σ) : Prop where
  matched : s'.matched = s.matched
  routed : s'.history.routed = s.history.routed
  delivered : s'.history.delivered = s.history.delivered

theorem mail_offRoute {id : SubscriptionId} {now : Instant} {e : Mailbox.Event}
    (h : s.mail id now e = some s') : OffRoute s s' := by
  obtain ⟨sub, sub', answers, found, mailed, rfl⟩ := mail_eq_some h
  exact ⟨rfl, rfl, rfl⟩

theorem step?_offRoute {move : Move σ} (isRouting : move.isRouting = false)
    (h : s.step? link move = some s') : OffRoute s s' := by
  cases move with
  | add f g d =>
    simp only [step?] at h
    split at h
    · cases h
      exact ⟨rfl, rfl, rfl⟩
    · cases h
  | advance i =>
    obtain ⟨asked, stage, entry, here, turn⟩ := advance_turn h
    cases turn <;> exact ⟨rfl, rfl, rfl⟩
  | shuffle table =>
    simp only [step?] at h
    split at h
    · cases h
      exact ⟨rfl, rfl, rfl⟩
    · cases h
  | receive id now timeout =>
    have same := mail_offRoute h
    exact ⟨same.matched, same.routed, same.delivered⟩
  | wake id now e =>
    simp only [step?] at h
    split at h
    · exact mail_offRoute h
    · cases h
  | remove f =>
    cases h
    exact ⟨rfl, rfl, rfl⟩
  | relink l =>
    cases h
    exact ⟨rfl, rfl, rfl⟩
  | route m => cases isRouting
  | handOver place chosen => cases isRouting

theorem handOver_eq_some {place chosen : Nat} (h : s.handOver place chosen = some s') :
    ∃ id m, s.matched[place]? = some (id, m) ∧ s'.matched = s.matched.eraseIdx place ∧
      s'.history.routed = s.history.routed ∧
      s'.history.delivered = s.history.delivered ++ [(id, m)] := by
  rw [handOver] at h
  split at h
  · cases h
  · rename_i id m here
    cases h
    exact ⟨id, m, here, rfl, rfl, rfl⟩

theorem proper_of_run (run : (start l).run? link moves = some s) :
    ∀ routing ∈ s.history.routed, routing.Proper s.registry := by
  refine keeps_of_run (P := fun s => ∀ routing ∈ s.history.routed, routing.Proper s.registry) ?_
    (fun _ h => absurd h List.not_mem_nil) run
  intro s s' move sound proper step
  have grown := fun routing known => (proper routing known).grow (step?_step step).grows
  cases isRouting : move.isRouting with
  | false =>
    rw [(step?_offRoute isRouting step).routed]
    exact grown
  | true =>
    cases move with
    | route m =>
      cases step
      intro routing known
      rcases List.mem_append.mp known with old | new
      · exact proper routing old
      · rw [List.mem_singleton.mp new]
        exact proper_route sound.registry m
    | handOver place chosen =>
      obtain ⟨id, m, -, -, routed, -⟩ := handOver_eq_some step
      rw [routed]
      exact grown
    | _ => cases isRouting

end Traffic

end Courier
