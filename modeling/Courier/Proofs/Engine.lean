import Courier.Engine
import Courier.Proofs.Registry

/-!
# An engine and its handles

What an engine does for a handle, and what it knows of the handles that are out.
-/

namespace Courier

namespace Engine

variable {e e' : Engine} {building : Except String Unit} {handle : Handle}
  {out out' : List Handle}

theorem acquire_eq_ok (h : e.acquire building = (.ok handle, e')) :
    e'.count = e.count + 1 ∧ e'.runtime = some handle.runtime ∧
      ∀ runtime, e.runtime = some runtime → handle.runtime = runtime := by
  unfold acquire at h
  split at h
  · rename_i runtime up
    cases h
    exact ⟨rfl, up, fun _ same => Option.some.inj (up.symm.trans same)⟩
  · rename_i down
    cases h
    exact ⟨rfl, rfl, fun _ up => by cases down.symm.trans up⟩
  · cases h

theorem acquire_eq_error {fault : Fault} (h : e.acquire building = (.error fault, e')) :
    e' = e ∧ ∃ cause, fault = .engineFailed cause := by
  unfold acquire at h
  split at h
  · cases h
  · cases h
  · cases h
    exact ⟨rfl, _, rfl⟩

/-- Just these handles are out, and all of them are for the runtime that is up. -/
structure Backs (e : Engine) (out : List Handle) : Prop where
  count : e.count = out.length
  runtime : ∀ handle ∈ out, e.runtime = some handle.runtime

theorem Backs.perm (backs : e.Backs out) (perm : out.Perm out') : e.Backs out' where
  count := backs.count.trans perm.length_eq
  runtime handle there := backs.runtime handle (perm.mem_iff.mpr there)

theorem Backs.acquire (backs : e.Backs out)
    (acquired : e.acquire building = (.ok handle, e')) : e'.Backs (handle :: out) := by
  obtain ⟨count, runtime, same⟩ := acquire_eq_ok acquired
  refine ⟨by rw [count, backs.count, List.length_cons], fun other there => ?_⟩
  rcases List.mem_cons.mp there with rfl | there
  · exact runtime
  · rw [runtime, same _ (backs.runtime other there)]

/-- The runtime goes with the last handle and not before. -/
theorem Backs.release (backs : e.Backs (handle :: out)) :
    e.release.Backs out := by
  have count : e.count - 1 = out.length := by rw [backs.count]; rfl
  refine ⟨count, fun other there => ?_⟩
  have some : e.count - 1 ≠ 0 := by
    rw [count]
    exact Nat.ne_of_gt (List.length_pos_of_mem there)
  simp only [Engine.release, if_neg some]
  exact backs.runtime other (List.mem_cons_of_mem _ there)

/-- Where no runtime is up no handle is out, so one may come up. -/
theorem Backs.build (backs : e.Backs out) (down : e.runtime = none) (runtime built : Nat) :
    (Engine.mk (some runtime) e.count built).Backs out where
  count := backs.count
  runtime handle there := by cases down.symm.trans (backs.runtime handle there)

/-- An engine that nobody is at work on: it runs for its handles only. -/
structure Steady (e : Engine) : Prop where
  vacant : e.runtime = none ↔ e.count = 0
  known : ∀ runtime, e.runtime = some runtime → runtime < e.built

theorem steady_idle : idle.Steady := ⟨by decide, fun _ up => by cases up⟩

theorem Steady.running (steady : e.Steady) : e.isRunning ↔ 0 < e.count := by
  rw [isRunning, Option.isSome_iff_ne_none, Ne, steady.vacant, Nat.pos_iff_ne_zero]

theorem Steady.release (steady : e.Steady) : e.release.Steady := by
  by_cases last : e.count - 1 = 0
  · simp only [Engine.release, if_pos last]
    exact ⟨by simp [last], fun _ up => by cases up⟩
  · simp only [Engine.release, if_neg last]
    have counted : e.count ≠ 0 := by omega
    exact ⟨by simp [steady.vacant, counted, last], steady.known⟩

/-- A runtime is built for the first handle, and for no other. -/
theorem Steady.built (steady : e.Steady) (acquired : e.acquire building = (.ok handle, e')) :
    if e.count = 0 then handle.runtime = e.built ∧ e'.built = e.built + 1
    else e.runtime = some handle.runtime ∧ e'.built = e.built := by
  cases found : e.runtime with
  | some runtime =>
    have busy : e.count ≠ 0 := fun nobody => by cases found.symm.trans (steady.vacant.mpr nobody)
    simp only [Engine.acquire, found] at acquired
    cases acquired
    rw [if_neg busy]
    exact ⟨rfl, rfl⟩
  | none =>
    rw [if_pos (steady.vacant.mp found)]
    cases building with
    | ok =>
      simp only [Engine.acquire, found] at acquired
      cases acquired
      exact ⟨rfl, rfl⟩
    | error cause =>
      simp only [Engine.acquire, found] at acquired
      cases acquired

theorem Steady.acquire (steady : e.Steady) (acquired : e.acquire building = (.ok handle, e')) :
    e'.Steady ∧ e.built ≤ e'.built := by
  obtain ⟨count, up, -⟩ := acquire_eq_ok acquired
  have vacant : e'.runtime = none ↔ e'.count = 0 := by simp [up, count]
  have built := steady.built acquired
  split at built
  · obtain ⟨new, built⟩ := built
    refine ⟨⟨vacant, fun runtime here => ?_⟩, by omega⟩
    obtain rfl : handle.runtime = runtime := Option.some.inj (up.symm.trans here)
    omega
  · obtain ⟨found, built⟩ := built
    refine ⟨⟨vacant, fun runtime here => ?_⟩, by omega⟩
    obtain rfl : handle.runtime = runtime := Option.some.inj (up.symm.trans here)
    exact built ▸ steady.known _ found

end Engine

end Courier
