import Courier.Proofs.Session.Reaction

/-!
# How many failures a network thread counts

A thread counts the attempts that failed and that it may make again, in 32 bits. The count is right
as long as there are fewer than 2^32 of them, and the one that makes as many finds no room.
-/

namespace Courier

namespace Loop

variable {l l' : Loop} {deeds : List Deed} {policy : RetryPolicy} {started now : Instant}
  {s : Stimulus} {effect : Effect} {d : Deed}

/-- Whether an attempt to connect failed that may be made again. -/
def Deed.isFailure (d : Deed) : Bool :=
  match d.stimulus with
  | .polled (.error e) => !d.before.connected && !e.isFatal
  | _ => false

def failures (deeds : List Deed) : Nat := deeds.countP (·.isFailure)

/-- Whether the count has no room for one more failure. A build that checks its arithmetic stops the
thread there. -/
def Deed.overflows (d : Deed) : Bool := d.isFailure && d.before.attempts = 4294967295

/-- The count is the number of failures, and always had room for the next. -/
structure CountsAll (l : Loop) (deeds : List Deed) : Prop where
  exact : l.attempts.toNat = failures deeds
  room : ∀ d ∈ deeds, d.overflows = false

theorem Deed.isFailure_iff : d.isFailure ↔
    ∃ e, d.stimulus = .polled (.error e) ∧ d.before.connected = false ∧ e.isFatal = false := by
  unfold isFailure
  split
  · rename_i e error
    simp [error]
  · rename_i other
    simpa using fun e error => absurd error (other e)

/-- What a failure makes of a thread, and that nothing else counts. -/
theorem Reacts.counts (r : Reacts l now s l' effect) :
    (⟨now, l, s, l'⟩ : Deed).isFailure ∧ l'.attempts = l.attempts + 1 ∧ l.stage = .polling ∧
        l.connected = false ∧
        (l'.stage = .leaving ∨ l'.stage = .pausing (now.after? l.policy.interval)) ∨
      (⟨now, l, s, l'⟩ : Deed).isFailure = false ∧ l'.attempts = l.attempts := by
  have uncounted (other : s.isError = false) : (⟨now, l, s, l'⟩ : Deed).isFailure = false := by
    refine eq_false_of_ne_true fun failed => ?_
    obtain ⟨e, rfl, -⟩ := Deed.isFailure_iff.mp failed
    cases other
  have counted {e : TransportError} (error : s = .polled (.error e))
      (unconnected : l.connected = false) (passing : e.isFatal = false) :
      (⟨now, l, s, l'⟩ : Deed).isFailure :=
    Deed.isFailure_iff.mpr ⟨e, error, unconnected, passing⟩
  cases r with
  | spend polling unconnected passing =>
    exact .inl ⟨counted rfl unconnected passing, rfl, polling, unconnected, .inl rfl⟩
  | pause polling unconnected passing =>
    exact .inl ⟨counted rfl unconnected passing, rfl, polling, unconnected, .inr rfl⟩
  | refuse _ _ fatal =>
    refine .inr ⟨eq_false_of_ne_true fun failed => ?_, rfl⟩
    obtain ⟨e, same, -, passing⟩ := Deed.isFailure_iff.mp failed
    cases same
    cases passing.symm.trans fatal
  | lose _ connected =>
    refine .inr ⟨eq_false_of_ne_true fun failed => ?_, rfl⟩
    obtain ⟨-, -, unconnected, -⟩ := Deed.isFailure_iff.mp failed
    cases unconnected.symm.trans connected
  | establish _ success =>
    refine .inr ⟨uncounted (eq_false_of_ne_true fun error => ?_), rfl⟩
    cases success.symm.trans (Stimulus.isSuccess_of_isError error)
  | part _ farewell => exact .inr ⟨uncounted (Stimulus.isError_of_isFarewell farewell), rfl⟩
  | _ => exact .inr ⟨uncounted rfl, rfl⟩

theorem failures_snoc (deeds : List Deed) (d : Deed) :
    failures (deeds ++ [d]) = failures deeds + d.isFailure.toNat := by
  simp only [failures, List.countP_append, List.countP_singleton]
  cases d.isFailure <;> rfl

namespace Lived

/-- The count is what 32 bits hold of the number of failures. -/
theorem attempts_eq (h : Lived (fresh policy started) l deeds) :
    l.attempts = UInt32.ofNat (failures deeds) := by
  induction h with
  | begun => rfl
  | reacted before step ih =>
    rw [failures_snoc]
    rcases (reacts_of_react? before.calm step).counts with ⟨failed, more, -⟩ | ⟨calm, same⟩
    · rw [more, ih, failed, Bool.toNat_true, UInt32.ofNat_add]
      rfl
    · rw [same, ih, calm, Bool.toNat_false, Nat.add_zero]

theorem toNat_attempts (h : Lived (fresh policy started) l deeds) :
    l.attempts.toNat = failures deeds % 4294967296 := by
  rw [h.attempts_eq]
  exact UInt32.toNat_ofNat'

/-- The count has been found full once there were more failures than it can hold. -/
theorem overflows_iff (h : Lived (fresh policy started) l deeds) :
    (∃ d ∈ deeds, d.overflows) ↔ 4294967296 ≤ failures deeds := by
  induction h with
  | begun => simp [failures]
  | @reacted l l' deeds now s effect before step ih =>
    have full : l.attempts = 4294967295 ↔ failures deeds % 4294967296 = 4294967295 := by
      rw [← before.toNat_attempts, ← UInt32.toNat_inj]
      rfl
    have last : (⟨now, l, s, l'⟩ : Deed).overflows ↔ (⟨now, l, s, l'⟩ : Deed).isFailure ∧
        failures deeds % 4294967296 = 4294967295 := by
      simp only [Deed.overflows, Bool.and_eq_true, decide_eq_true_eq, full]
    simp only [List.mem_append, List.mem_singleton, or_and_right, exists_or, exists_eq_left]
    rw [ih, last, failures_snoc]
    cases (⟨now, l, s, l'⟩ : Deed).isFailure with
    | false => simp
    | true =>
      simp only [true_and, Bool.toNat_true]
      omega

theorem countsAll_iff (h : Lived (fresh policy started) l deeds) :
    l.CountsAll deeds ↔ failures deeds < 4294967296 := by
  constructor
  · intro all
    exact all.exact ▸ l.attempts.toNat_lt
  · intro few
    refine ⟨h.toNat_attempts.trans (Nat.mod_eq_of_lt few), fun d there => ?_⟩
    exact eq_false_of_ne_true fun full => Nat.not_le.mpr few (h.overflows_iff.mp ⟨d, there, full⟩)

end Lived

end Loop

end Courier
