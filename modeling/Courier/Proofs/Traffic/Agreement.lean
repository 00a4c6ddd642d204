import Mathlib.Data.List.Count
import Courier.Proofs.Traffic.Sound

/-!
# How far the registry and the broker agree

A filter is entered before its SUBSCRIBE is made and taken out before its UNSUBSCRIBE is made, and
no lock is held in between. The account of a filter says what its calls have done so far. Every step
posts to it in one of a few ways, and from these comes what holds once no call is under way.
-/

namespace Courier

/-- Whether a call has entered the filter and is not over. -/
def Change.opens (f : String) : Change → Bool
  | .entered g _ | .addRefused g _ => f = g
  | _ => false

/-- Whether a call has taken the filter out and is not over. -/
def Change.closes (f : String) : Change → Bool
  | .takenOut g _ | .removeRefused g _ _ => f = g
  | _ => false

/-- What a request says of the filter: true for SUBSCRIBE, false for UNSUBSCRIBE. -/
def Request.verdict? (f : String) : Request → Option Bool
  | .subscribe g _ => if f = g then some true else none
  | .unsubscribe g => if f = g then some false else none
  | _ => none

namespace Traffic

/-- Whether a refused call freed the filter when nothing was there to be freed. -/
def Rollback.isIdle (f : String) : Rollback → Bool
  | .freed g none => f = g
  | _ => false

/-- Whether a refused call failed to bring the filter back because another subscription had it. -/
def Rollback.isStranded (f : String) : Rollback → Bool
  | .broughtBack g _ (some _) => f = g
  | _ => false

/-- What the requests say of the filter, the latest last. -/
def verdicts (f : String) (accepted : List Request) : List Bool :=
  accepted.filterMap (·.verdict? f)

/-- What the calls on a filter have done so far. -/
@[ext] structure Account where
  inUse : Bool
  opening : Nat
  closing : Nat
  verdicts : List Bool
  idle : Nat
  stranded : Nat

variable {σ : Type} {s s' : Traffic σ}

/-- How many calls have entered the filter and are not over. -/
def openings (calls : List Call) (f : String) : Nat := calls.countP (·.stage.opens f)

/-- How many calls have taken the filter out and are not over. -/
def closings (calls : List Call) (f : String) : Nat := calls.countP (·.stage.closes f)

def account (s : Traffic σ) (f : String) : Account where
  inUse := s.registry.contains f
  opening := openings s.calls f
  closing := closings s.calls f
  verdicts := verdicts f s.history.accepted
  idle := s.history.rollbacks.countP (·.isIdle f)
  stranded := s.history.rollbacks.countP (·.isStranded f)

/-- What one step may do to the account of a filter. -/
inductive Posting (a : Account) : Account → Prop where
  | kept : Posting a a
  | entered (free : a.inUse = false) :
    Posting a { a with inUse := true, opening := a.opening + 1 }
  | subscribed (opened : 0 < a.opening) :
    Posting a { a with opening := a.opening - 1, verdicts := a.verdicts ++ [true] }
  | freed (opened : 0 < a.opening) :
    Posting a { a with
      inUse := false, opening := a.opening - 1, idle := a.idle + (!a.inUse).toNat }
  | takenOut (taken : a.inUse = true) :
    Posting a { a with inUse := false, closing := a.closing + 1 }
  | unsubscribed (closed : 0 < a.closing) :
    Posting a { a with closing := a.closing - 1, verdicts := a.verdicts ++ [false] }
  | broughtBack (closed : 0 < a.closing) :
    Posting a { a with
      inUse := true, closing := a.closing - 1, stranded := a.stranded + a.inUse.toNat }

theorem Posting.of_eq {a b c : Account} (posting : Posting a b) (same : c = b) : Posting a c :=
  same ▸ posting

/-! ## Every step is a posting -/

theorem openings_put {i : Nat} {asked stage : Change} {entry : Option SubscriptionId}
    (here : s.calls[i]? = some ⟨asked, stage, entry⟩) (f : String) (stage' : Change)
    (entry' : Option SubscriptionId) :
    openings (s.put i asked stage' entry').calls f =
      openings s.calls f + (stage'.opens f).toNat - (stage.opens f).toNat :=
  Nat.eq_sub_of_add_eq (countP_moved here (·.stage.opens f) ⟨asked, stage', entry'⟩)

theorem closings_put {i : Nat} {asked stage : Change} {entry : Option SubscriptionId}
    (here : s.calls[i]? = some ⟨asked, stage, entry⟩) (f : String) (stage' : Change)
    (entry' : Option SubscriptionId) :
    closings (s.put i asked stage' entry').calls f =
      closings s.calls f + (stage'.closes f).toNat - (stage.closes f).toNat :=
  Nat.eq_sub_of_add_eq (countP_moved here (·.stage.closes f) ⟨asked, stage', entry'⟩)

theorem openings_pos {c : Call} {calls : List Call} (h : c ∈ calls) {f : String}
    (opens : c.stage.opens f = true) : 0 < openings calls f :=
  List.countP_pos_iff.mpr ⟨c, h, opens⟩

theorem closings_pos {c : Call} {calls : List Call} (h : c ∈ calls) {f : String}
    (closes : c.stage.closes f = true) : 0 < closings calls f :=
  List.countP_pos_iff.mpr ⟨c, h, closes⟩

@[simp] theorem verdicts_snoc (f : String) (accepted : List Request) (request : Request) :
    verdicts f (accepted ++ [request]) = verdicts f accepted ++ (request.verdict? f).toList := by
  rw [verdicts, List.filterMap_append, List.filterMap_cons]
  cases request.verdict? f <;> rfl

theorem posting_of_turn {i : Nat} {asked stage : Change} {entry : Option SubscriptionId}
    (here : s.calls[i]? = some ⟨asked, stage, entry⟩) (turn : Turn s i asked entry stage s')
    (f : String) : Posting (s.account f) (s'.account f) := by
  have known := List.mem_of_getElem? here
  have opened := openings_put here f
  have closed := closings_put here f
  -- a step on another filter than this one leaves the account as it is
  cases turn with
  | turnedAway g q d fault reason =>
    refine Posting.kept.of_eq ?_
    simp [account, opened, closed, Change.opens, Change.closes]
  | entered g q d valid free =>
    by_cases hg : f = g
    · subst hg
      refine (Posting.entered ((Registry.contains_eq_false_iff _ _).mpr free)).of_eq ?_
      simp [account, opened, closed, Change.opens, Change.closes, Registry.contains_entered, free]
    · refine Posting.kept.of_eq ?_
      simp [account, opened, closed, Change.opens, Change.closes, Registry.contains_entered, free,
        hg]
  | subscribed g q l =>
    by_cases hg : f = g
    · subst hg
      refine (Posting.subscribed (openings_pos known (by simp [Change.opens]))).of_eq ?_
      simp [account, opened, closed, Change.opens, Change.closes, Request.verdict?]
    · refine Posting.kept.of_eq ?_
      simp [account, opened, closed, Change.opens, Change.closes, Request.verdict?, hg]
  | refusedAdd g q l fault =>
    refine Posting.kept.of_eq ?_
    simp [account, opened, closed, Change.opens, Change.closes]
  | freed g fault =>
    by_cases hg : f = g
    · subst hg
      refine (Posting.freed (openings_pos known (by simp [Change.opens]))).of_eq ?_
      cases named : s.registry.find? f <;>
        simp [account, opened, closed, Change.opens, Change.closes, Rollback.isIdle,
          Rollback.isStranded, Registry.contains, named]
    · refine Posting.kept.of_eq ?_
      cases named : s.registry.find? g <;>
        simp [account, opened, closed, Change.opens, Change.closes, Rollback.isIdle,
          Rollback.isStranded, hg]
  | notThere g fault absent =>
    refine Posting.kept.of_eq ?_
    simp [account, opened, closed, Change.opens, Change.closes]
  | takenOut g id found =>
    by_cases hg : f = g
    · subst hg
      refine (Posting.takenOut ?_).of_eq ?_
      · simp [account, Registry.contains, found]
      · simp [account, opened, closed, Change.opens, Change.closes]
    · refine Posting.kept.of_eq ?_
      simp [account, opened, closed, Change.opens, Change.closes, hg]
  | unsubscribed g id l =>
    by_cases hg : f = g
    · subst hg
      refine (Posting.unsubscribed (closings_pos known (by simp [Change.closes]))).of_eq ?_
      simp [account, opened, closed, Change.opens, Change.closes, Request.verdict?]
    · refine Posting.kept.of_eq ?_
      simp [account, opened, closed, Change.opens, Change.closes, Request.verdict?, hg]
  | refusedRemove g id l fault =>
    refine Posting.kept.of_eq ?_
    simp [account, opened, closed, Change.opens, Change.closes]
  | broughtBack g id fault =>
    by_cases hg : f = g
    · subst hg
      refine (Posting.broughtBack (closings_pos known (by simp [Change.closes]))).of_eq ?_
      cases named : s.registry.find? f <;>
        simp [account, opened, closed, Change.opens, Change.closes, Rollback.isIdle,
          Rollback.isStranded, Registry.contains, Registry.find?_putBack, named]
    · refine Posting.kept.of_eq ?_
      cases named : s.registry.find? g <;>
        simp [account, opened, closed, Change.opens, Change.closes, Rollback.isIdle,
          Rollback.isStranded, hg]

theorem posting_of_aside (sound : s.Sound) (aside : Aside s s') (f : String) :
    Posting (s.account f) (s'.account f) := by
  have find_eq := (sound.aside aside).registry.find?_permuted sound.registry aside.table f
  refine Posting.kept.of_eq ?_
  simp only [account, Registry.contains, find_eq, aside.calls, aside.accepted, aside.rollbacks]

theorem Step.posting (sound : s.Sound) (step : Step s s') (f : String) :
    Posting (s.account f) (s'.account f) := by
  cases step with
  | begun asked isAsked =>
    refine Posting.kept.of_eq ?_
    cases asked with
    | add g q d => simp [account, begin, openings, closings, Change.opens, Change.closes]
    | remove g => simp [account, begin, openings, closings, Change.opens, Change.closes]
    | _ => cases isAsked
  | turned i asked stage entry s' here turn => exact posting_of_turn here turn f
  | aside s' aside => exact posting_of_aside sound aside f

/-! ## What the postings keep -/

/-- A filter in use makes up for what was accepted, what is under way and what went astray. -/
def Account.Balanced (a : Account) : Prop :=
  a.inUse.toNat + a.closing + a.verdicts.count false + a.stranded =
    a.verdicts.count true + a.opening + a.idle

theorem count_snoc (verdicts : List Bool) (b c : Bool) :
    (verdicts ++ [b]).count c = verdicts.count c + if b = c then 1 else 0 := by
  rw [List.count_append]
  cases b <;> cases c <;> rfl

theorem not_toNat (b : Bool) : (!b).toNat + b.toNat = 1 := by
  cases b <;> rfl

theorem Posting.balanced {a b : Account} (posting : Posting a b) (balanced : a.Balanced) :
    b.Balanced := by
  rw [Account.Balanced] at balanced
  cases posting with
  | kept => exact balanced
  | entered free =>
    simp only [Account.Balanced, free, Bool.toNat_false, Bool.toNat_true] at balanced ⊢
    omega
  | subscribed opened =>
    simp only [Account.Balanced, count_snoc, Bool.true_eq_false, ↓reduceIte]
    omega
  | freed opened =>
    rw [Account.Balanced]
    have either := not_toNat a.inUse
    simp only [Bool.toNat_false]
    omega
  | takenOut taken =>
    simp only [Account.Balanced, taken, Bool.toNat_false, Bool.toNat_true] at balanced ⊢
    omega
  | unsubscribed closed =>
    simp only [Account.Balanced, count_snoc, Bool.false_eq_true, ↓reduceIte]
    omega
  | broughtBack closed =>
    simp only [Account.Balanced, Bool.toNat_true]
    omega

/-- No two calls on the filter are between their first step and their last. -/
def Account.Apart (a : Account) : Prop := a.opening + a.closing ≤ 1

/-- Whether the last verdict is SUBSCRIBE. -/
def endsSubscribed (verdicts : List Bool) : Bool := verdicts.getLast? = some true

@[simp] theorem endsSubscribed_snoc (verdicts : List Bool) (verdict : Bool) :
    endsSubscribed (verdicts ++ [verdict]) = verdict := by
  simp [endsSubscribed]

/-- The filter is in use as the last verdict says, but for a call under way. -/
def Account.UpToDate (a : Account) : Prop :=
  a.inUse.toNat + a.closing = (endsSubscribed a.verdicts).toNat + a.opening

theorem Posting.upToDate {a b : Account} (posting : Posting a b) (apart : a.Apart)
    (upToDate : a.UpToDate) : b.UpToDate := by
  rw [Account.Apart] at apart
  rw [Account.UpToDate] at upToDate
  -- a call under way that has entered the filter, or taken it out, is the only one and settles both
  have used := a.inUse.toNat_le
  have said := (endsSubscribed a.verdicts).toNat_le
  cases posting with
  | kept => exact upToDate
  | entered free =>
    simp only [Account.UpToDate, free, Bool.toNat_false, Bool.toNat_true] at upToDate ⊢
    omega
  | subscribed opened =>
    simp only [Account.UpToDate, endsSubscribed_snoc, Bool.toNat_true]
    omega
  | freed opened =>
    simp only [Account.UpToDate, Bool.toNat_false]
    omega
  | takenOut taken =>
    simp only [Account.UpToDate, taken, Bool.toNat_false, Bool.toNat_true] at upToDate ⊢
    omega
  | unsubscribed closed =>
    simp only [Account.UpToDate, endsSubscribed_snoc, Bool.toNat_false]
    omega
  | broughtBack closed =>
    simp only [Account.UpToDate, Bool.toNat_true]
    omega

/-! ## Runs -/

variable {link : LinkAnswers σ} {l : σ} {moves : List (Move σ)}

/-- Whether a property holds in each state that a run goes through. -/
def Throughout (P : Traffic σ → Prop) (link : LinkAnswers σ) : List (Move σ) → Traffic σ → Prop
  | [], s => P s
  | move :: moves, s => P s ∧ ∀ next, s.step? link move = some next → Throughout P link moves next

theorem run?_keeps_within {P Q : Traffic σ → Prop}
    (keeps : ∀ {s s' move}, P s → Q s → s.step? link move = some s' → Q s') (init : Q s)
    (within : Throughout P link moves s) (h : s.run? link moves = some s') : Q s' := by
  induction moves generalizing s with
  | nil =>
    cases h
    exact init
  | cons move moves ih =>
    obtain ⟨next, first, rest⟩ := foldlM_cons_eq_some.mp h
    exact ih (keeps within.1 init first) (within.2 next first) rest

theorem iff_iff_toNat (a b : Bool) : (a = true ↔ b = true) ↔ a.toNat = b.toNat := by
  cases a <;> cases b <;> decide

theorem balanced_of_run (run : (start l).run? link moves = some s) (f : String) :
    (s.account f).Balanced := by
  refine keeps_of_run (P := fun s => (s.account f).Balanced) ?_ rfl run
  intro s s' move sound balanced step
  exact ((step?_step step).posting sound f).balanced balanced

theorem upToDate_of_run (run : (start l).run? link moves = some s) {f : String}
    (apart : Throughout (fun s => (s.account f).Apart) link moves (start l)) :
    (s.account f).UpToDate := by
  have keeps {s s' : Traffic σ} {move : Move σ} (apart : (s.account f).Apart)
      (h : s.Sound ∧ (s.account f).UpToDate) (step : s.step? link move = some s') :
      s'.Sound ∧ (s'.account f).UpToDate :=
    ⟨h.1.step? step, ((step?_step step).posting h.1 f).upToDate apart h.2⟩
  exact (run?_keeps_within keeps ⟨sound_start l, rfl⟩ apart run).2

theorem QuietOn.openings_eq {f : String} (quiet : s.QuietOn f) : openings s.calls f = 0 := by
  refine List.countP_eq_zero.mpr fun c hc opens => quiet c hc ?_
  cases stage : c.stage <;> simp_all [Change.opens, Change.filter?]

theorem QuietOn.closings_eq {f : String} (quiet : s.QuietOn f) : closings s.calls f = 0 := by
  refine List.countP_eq_zero.mpr fun c hc closes => quiet c hc ?_
  cases stage : c.stage <;> simp_all [Change.closes, Change.filter?]

/-- How the use of a filter and what the link accepted for it go together. -/
structure Agreement (link : LinkAnswers σ) (l : σ) (moves : List (Move σ)) (s : Traffic σ)
    (f : String) : Prop where
  balance : (s.registry.contains f).toNat + (verdicts f s.history.accepted).count false +
      s.history.rollbacks.countP (·.isStranded f) =
    (verdicts f s.history.accepted).count true + s.history.rollbacks.countP (·.isIdle f)
  /-- When the filter is in use exactly if the last request is SUBSCRIBE. -/
  exactly : (s.registry.contains f = true ↔ endsSubscribed (verdicts f s.history.accepted) = true) ↔
    (verdicts f s.history.accepted).count true + s.history.rollbacks.countP (·.isIdle f) =
      (verdicts f s.history.accepted).count false + s.history.rollbacks.countP (·.isStranded f) +
        (endsSubscribed (verdicts f s.history.accepted)).toNat
  /-- It is so in particular when calls on the filter never overlapped. -/
  apart : Throughout (fun s => (s.account f).Apart) link moves (start l) →
    (s.registry.contains f = true ↔ endsSubscribed (verdicts f s.history.accepted) = true)

/-- The broker is asked in an order of its own, so the use of a filter follows from how often it was
asked and not from what it was asked last. -/
theorem agreement_once_quiet {f : String} (run : (start l).run? link moves = some s)
    (quiet : s.QuietOn f) : Agreement link l moves s f := by
  have balance := balanced_of_run run f
  simp only [Account.Balanced, account, quiet.openings_eq, quiet.closings_eq] at balance
  refine ⟨balance, ?_, ?_⟩
  · rw [iff_iff_toNat]
    omega
  · intro apart
    have upToDate := upToDate_of_run run apart
    simp only [Account.UpToDate, account, quiet.openings_eq, quiet.closings_eq] at upToDate
    exact (iff_iff_toNat _ _).mpr upToDate

/-- Calls on two filters that overlap; the link refuses one of them. -/
def neighbours : List (Move (List (Except Fault Unit))) :=
  [.add "a" .usual (.queue .empty), .add "b" .usual (.queue .empty), .advance 0, .advance 1,
    .advance 1, .advance 1, .advance 0, .remove "a", .advance 2, .advance 2]

theorem agreement_of_neighbours :
    ∃ s : Traffic (List (Except Fault Unit)),
      (start [.error (.subscribeFailed "b" "")]).run? scripted neighbours = some s ∧
        s.QuietOn "a" ∧
        Throughout (fun s => (s.account "a").Apart) scripted neighbours
          (start [.error (.subscribeFailed "b" "")]) ∧
        Agreement scripted [.error (.subscribeFailed "b" "")] neighbours s "a" := by
  obtain ⟨s, run, quiet⟩ : ∃ s : Traffic (List (Except Fault Unit)),
      (start [.error (.subscribeFailed "b" "")]).run? scripted neighbours = some s ∧
        s.QuietOn "a" := ⟨_, rfl, by decide⟩
  refine ⟨s, run, quiet, ?_, agreement_once_quiet run quiet⟩
  repeat
    refine ⟨Nat.le_of_ble_eq_true rfl, ?_⟩
    rintro _ ⟨⟩
  exact Nat.le_of_ble_eq_true rfl

/-- A call that takes a subscription out may have its UNSUBSCRIBE accepted before the SUBSCRIBE of
the call that entered it. -/
theorem not_inUse_iff_last_subscribe :
    ¬ ∀ (moves : List (Move (List (Except Fault Unit)))) (s : Traffic (List (Except Fault Unit))),
      (start []).run? scripted moves = some s → (∀ f, s.QuietOn f) → ∀ f,
        (s.registry.contains f = true ↔ endsSubscribed (verdicts f s.history.accepted) = true) := by
  intro agree
  have wrong := agree
    [.add "a" .usual (.queue .empty), .remove "a", .advance 0, .advance 1, .advance 1, .advance 0] _
    rfl (by simp [QuietOn, start, begin, Change.filter?]) "a"
  exact absurd (wrong.mpr rfl) (by decide)

end Traffic

end Courier
