import Courier.Topic

/-!
# Which filters take in which topics

A text is determined by its levels. A filter without wildcards takes in the one topic that it
spells, and a filter that passed validation takes in its own text, wildcards included.
-/

namespace Courier

theorem levels_injective {a b : String} (h : levels a = levels b) : a = b := by
  have joined : ['/'].intercalate (levels a) = ['/'].intercalate (levels b) := by rw [h]
  rw [levels, levels, List.intercalate_splitOn, List.intercalate_splitOn] at joined
  exact String.toList_inj.mp joined

/-- Whether a level stands for others than itself. -/
def IsWild (l : Level) : Prop := l = anyLevel ∨ l = anyLevels

theorem hasWildcards_iff (filter : String) :
    hasWildcards filter = true ↔ ∃ l ∈ levels filter, IsWild l := by
  simp [hasWildcards, IsWild]

theorem levelsMatch_of_plain {fs : List Level} (plain : ∀ f ∈ fs, ¬ IsWild f) (ts : List Level) :
    levelsMatch fs ts = true ↔ fs = ts := by
  induction fs generalizing ts with
  | nil => cases ts <;> simp [levelsMatch]
  | cons f fs ih =>
    have head : ¬ IsWild f := plain f List.mem_cons_self
    have tail := ih (fun g hg => plain g (List.mem_cons_of_mem f hg))
    simp only [IsWild, not_or] at head
    cases ts with
    | nil => simp [levelsMatch, head.2]
    | cons t ts => simp [levelsMatch, head.1, head.2, tail ts]

theorem filterMatches_iff_eq {filter topic : String} (plain : hasWildcards filter = false) :
    filterMatches filter topic = true ↔ filter = topic := by
  have levelsPlain : ∀ l ∈ levels filter, ¬ IsWild l := by
    intro l hl wild
    have has := (hasWildcards_iff filter).mpr ⟨l, hl, wild⟩
    rw [plain] at has
    cases has
  rw [filterMatches, levelsMatch_of_plain levelsPlain]
  constructor
  · exact levels_injective
  · intro h
    rw [h]

/-- A `#` of a flawless list of levels is the last one. -/
theorem eq_nil_of_flawless {fs : List Level} (h : levelsFlaw? (anyLevels :: fs) = none) :
    fs = [] := by
  by_cases hf : fs = []
  · exact hf
  · simp [levelsFlaw?, anyLevels, hf] at h

theorem levelsFlaw?_tail {f : Level} {fs : List Level} (h : levelsFlaw? (f :: fs) = none) :
    levelsFlaw? fs = none := by
  rw [levelsFlaw?] at h
  split at h
  · cases h
  · split at h
    · cases h
    · exact h

theorem levelsMatch_self {fs : List Level} (h : levelsFlaw? fs = none) :
    levelsMatch fs fs = true := by
  induction fs with
  | nil => rfl
  | cons f fs ih =>
    by_cases hf : f = anyLevels
    · subst f
      rw [eq_nil_of_flawless h]
      rfl
    · simp [levelsMatch, hf, ih (levelsFlaw?_tail h)]

theorem filterMatches_self {filter : String} (h : filterFlaw? filter = none) :
    filterMatches filter filter = true := by
  rw [filterFlaw?] at h
  split at h
  · cases h
  · exact levelsMatch_self h

end Courier
