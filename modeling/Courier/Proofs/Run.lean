/-!
# Runs

A system goes on by moves, and not every move can be made in every state. A run is the fold of its
step over some moves, and comes to nothing where one of them cannot be made.
-/

namespace Courier

universe u v

variable {σ : Type u} {μ : Type v} {step? : σ → μ → Option σ} {s s' : σ} {moves : List μ}

/-- A run begins with its first move. -/
theorem foldlM_cons_eq_some {move : μ} : (move :: moves).foldlM step? s = some s' ↔
    ∃ next, step? s move = some next ∧ moves.foldlM step? next = some s' :=
  Option.bind_eq_some_iff

/-- A run goes on from where the first part of it leads. -/
theorem foldlM_append_of_eq_some {after : List μ} (first : moves.foldlM step? s = some s') :
    (moves ++ after).foldlM step? s = after.foldlM step? s' := by
  rw [List.foldlM_append, first]
  rfl

/-- What every move keeps, every run keeps. -/
theorem foldlM_keeps {P : σ → Prop} (keeps : ∀ {s s' move}, P s → step? s move = some s' → P s')
    (init : P s) (run : moves.foldlM step? s = some s') : P s' := by
  induction moves generalizing s with
  | nil =>
    cases run
    exact init
  | cons move moves ih =>
    obtain ⟨next, first, rest⟩ := foldlM_cons_eq_some.mp run
    exact ih (keeps init first) rest

/-- So it is with what a move keeps only as long as something else holds that it keeps too. -/
theorem foldlM_keeps_both {P Q : σ → Prop}
    (first : ∀ {s s' move}, P s → step? s move = some s' → P s')
    (second : ∀ {s s' move}, P s → Q s → step? s move = some s' → Q s') (init : P s ∧ Q s)
    (run : moves.foldlM step? s = some s') : P s' ∧ Q s' :=
  foldlM_keeps (P := fun s => P s ∧ Q s)
    (fun both h => ⟨first both.1 h, second both.1 both.2 h⟩) init run

end Courier
