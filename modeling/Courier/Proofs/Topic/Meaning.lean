import Courier.Proofs.Topic

/-!
# What a filter means

Which topics a filter takes in, said level by level and not by a walk along both texts. A filter
takes in topics of as many levels as it has, or, if it ends in `#`, of at least as many as stand
before the `#`. A `#` that stands anywhere else takes in nothing. A filter that is made wider, by a
`+` in the place of a level or by a `#` in the place of all levels from one on, still takes in what
it took in before.
-/

namespace Courier

/-! ## Texts and their levels -/

/-- The text that some levels make up. -/
def ofLevels (ls : List Level) : String := String.ofList (['/'].intercalate ls)

theorem ofLevels_levels (text : String) : ofLevels (levels text) = text := by
  rw [ofLevels, levels, List.intercalate_splitOn, String.ofList_toList]

theorem levels_ne_nil (text : String) : levels text ≠ [] := List.splitOn_ne_nil _ _

theorem levels_ofLevels {ls : List Level} (nonempty : ls ≠ []) (whole : ∀ l ∈ ls, '/' ∉ l) :
    levels (ofLevels ls) = ls := by
  rw [ofLevels, levels, String.toList_ofList, List.splitOn_intercalate '/' whole nonempty]

/-- The levels of a text hold what it holds, but for the slashes. -/
theorem mem_splitOn_iff {c : Char} (text : List Char) :
    (∃ l ∈ text.splitOn '/', c ∈ l) ↔ c ≠ '/' ∧ c ∈ text := by
  induction text with
  | nil => simp [List.splitOn]
  | cons d rest ih =>
    obtain ⟨l, ls, split⟩ := List.exists_cons_of_ne_nil (List.splitOn_ne_nil '/' rest)
    simp only [split, List.mem_cons, exists_eq_or_imp] at ih
    rw [List.splitOn_cons_eq_if_modifyHead, split]
    by_cases slash : d = '/'
    · simp only [slash, beq_self_eq_true, if_true, List.mem_cons, exists_eq_or_imp,
        List.not_mem_nil, false_or, ih]
      grind
    · simp only [beq_iff_eq, slash, if_false, List.modifyHead_cons, List.mem_cons,
        exists_eq_or_imp, or_assoc, ih]
      grind

theorem slash_not_mem {text : String} {l : Level} (there : l ∈ levels text) : '/' ∉ l :=
  fun slash => ((mem_splitOn_iff text.toList).mp ⟨l, there, slash⟩).1 rfl

/-! ## The meaning -/

/-- Whether a level of a filter, other than `#`, takes in a level of a topic. -/
def Covers (f t : Level) : Prop := f = anyLevel ∨ f = t

/-- Whether the levels of a filter take in those of a topic as far as both go. -/
def Agree (fs ts : List Level) : Prop :=
  ∀ (i : Nat) (f t : Level), fs[i]? = some f → ts[i]? = some t → Covers f t

/-- Whether the levels of a filter take in those of a topic: without a `#` as many as there are, and
with a last `#` any number of further ones. -/
def TakesIn (fs ts : List Level) : Prop :=
  (anyLevels ∉ fs ∧ fs.length = ts.length ∧ Agree fs ts) ∨
    (fs.getLast? = some anyLevels ∧ anyLevels ∉ fs.dropLast ∧
      fs.dropLast.length ≤ ts.length ∧ Agree fs.dropLast ts)

variable {f t : Level} {fs ts : List Level}

theorem agree_cons : Agree (f :: fs) (t :: ts) ↔ Covers f t ∧ Agree fs ts := by
  constructor
  · intro agree
    exact ⟨agree 0 f t rfl rfl, fun i g u left right => agree (i + 1) g u left right⟩
  · rintro ⟨head, tail⟩ i g u left right
    cases i with
    | zero =>
      cases left
      cases right
      exact head
    | succ i => exact tail i g u left right

theorem agree_nil : Agree [] ts := fun _ _ _ absent => by cases absent

theorem takesIn_nil_left : TakesIn [] ts ↔ ts = [] := by
  cases ts <;> simp [TakesIn, Agree]

theorem takesIn_anyLevels : TakesIn (anyLevels :: fs) ts ↔ fs = [] := by
  cases fs <;> simp [TakesIn, Agree]

theorem not_takesIn_nil (literal : f ≠ anyLevels) : ¬ TakesIn (f :: fs) [] := by
  cases fs <;> simp [TakesIn, literal]

theorem takesIn_cons (literal : f ≠ anyLevels) :
    TakesIn (f :: fs) (t :: ts) ↔ Covers f t ∧ TakesIn fs ts := by
  have other : anyLevels ≠ f := Ne.symm literal
  -- The last level of a filter of two or more is not its first.
  cases fs with
  | nil =>
    have single : TakesIn [f] (t :: ts) ↔ ts = [] ∧ Covers f t := by
      simp [TakesIn, agree_cons, agree_nil, literal, other]
    rw [single, takesIn_nil_left, and_comm]
  | cons g fs =>
    simp only [TakesIn, agree_cons, List.mem_cons, List.dropLast_cons_cons, List.length_cons,
      List.getLast?_cons_cons, other, false_or, Nat.add_right_cancel_iff, Nat.add_le_add_iff_right,
      and_or_left, and_left_comm (b := Covers f t)]

/-- The walk along both lists of levels finds out what the filter means. -/
theorem levelsMatch_iff_takesIn (fs ts : List Level) :
    levelsMatch fs ts = true ↔ TakesIn fs ts := by
  induction fs generalizing ts with
  | nil => simp [levelsMatch, takesIn_nil_left]
  | cons f fs ih =>
    by_cases hash : f = anyLevels
    · subst f
      simp [levelsMatch, takesIn_anyLevels]
    · cases ts with
      | nil => simp [levelsMatch, hash, not_takesIn_nil hash]
      | cons t ts => simp [levelsMatch, hash, takesIn_cons hash, Covers, ih ts]

/-! ## Wider filters -/

theorem TakesIn.set {i : Nat} {l : Level} (h : TakesIn fs ts) (there : fs[i]? = some l)
    (literal : l ≠ anyLevels) : TakesIn (fs.set i anyLevel) ts := by
  induction fs generalizing ts i with
  | nil => cases there
  | cons f fs ih =>
    by_cases hash : f = anyLevels
    · subst f
      obtain rfl := takesIn_anyLevels.mp h
      obtain ⟨inside, same⟩ := List.getElem?_eq_some_iff.mp there
      obtain rfl : i = 0 := Nat.lt_one_iff.mp inside
      exact absurd same.symm literal
    · cases ts with
      | nil => exact absurd h (not_takesIn_nil hash)
      | cons t ts =>
        obtain ⟨covers, rest⟩ := (takesIn_cons hash).mp h
        cases i with
        | zero => exact (takesIn_cons (by decide)).mpr ⟨.inl rfl, rest⟩
        | succ i => exact (takesIn_cons hash).mpr ⟨covers, ih rest there⟩

theorem TakesIn.cut {i : Nat} (h : TakesIn fs ts) (inside : i < fs.length) :
    TakesIn (fs.take i ++ [anyLevels]) ts := by
  induction fs generalizing ts i with
  | nil => cases inside
  | cons f fs ih =>
    cases i with
    | zero => exact takesIn_anyLevels.mpr rfl
    | succ i =>
      have further : i < fs.length := Nat.lt_of_succ_lt_succ inside
      by_cases hash : f = anyLevels
      · subst f
        obtain rfl := takesIn_anyLevels.mp h
        cases further
      · cases ts with
        | nil => exact absurd h (not_takesIn_nil hash)
        | cons t ts =>
          obtain ⟨covers, rest⟩ := (takesIn_cons hash).mp h
          exact (takesIn_cons hash).mpr ⟨covers, ih rest further⟩

/-- A `#` before the last level takes in nothing. -/
theorem not_takesIn_of_mem (early : anyLevels ∈ fs.dropLast) : ¬ TakesIn fs ts := by
  rintro (⟨none, -⟩ | ⟨-, first, -⟩)
  · exact none (List.dropLast_sublist fs |>.mem early)
  · exact first early

/-- What a filter means, and what follows for a `#` out of its place and for wider filters. -/
theorem filterMatches_meaning (filter topic : String) :
    (filterMatches filter topic = true ↔ TakesIn (levels filter) (levels topic)) ∧
    (anyLevels ∈ (levels filter).dropLast → ∀ other, filterMatches filter other = false) ∧
    (filterMatches filter topic = true →
      (∀ (i : Nat) (l : Level), (levels filter)[i]? = some l → l ≠ anyLevels →
        filterMatches (ofLevels ((levels filter).set i anyLevel)) topic = true) ∧
      ∀ i < (levels filter).length,
        filterMatches (ofLevels ((levels filter).take i ++ [anyLevels])) topic = true) := by
  have meaning (text : String) :
      filterMatches text topic = true ↔ TakesIn (levels text) (levels topic) :=
    levelsMatch_iff_takesIn _ _
  refine ⟨meaning filter, fun early other => ?_, fun matched => ⟨fun i l there literal => ?_,
    fun i inside => ?_⟩⟩
  · rw [← Bool.not_eq_true, filterMatches, levelsMatch_iff_takesIn]
    exact not_takesIn_of_mem early
  · have whole : ∀ m ∈ (levels filter).set i anyLevel, '/' ∉ m := by
      intro m there
      rcases List.mem_or_eq_of_mem_set there with old | rfl
      · exact slash_not_mem old
      · decide
    rw [meaning, levels_ofLevels (by simp [levels_ne_nil]) whole]
    exact ((meaning filter).mp matched).set there literal
  · have whole : ∀ m ∈ (levels filter).take i ++ [anyLevels], '/' ∉ m := by
      intro m there
      rcases List.mem_append.mp there with old | new
      · exact slash_not_mem (List.mem_of_mem_take old)
      · rw [List.mem_singleton.mp new]
        decide
    rw [meaning, levels_ofLevels (by simp) whole]
    exact ((meaning filter).mp matched).cut inside

/-- A filter takes in a topic that ends before its `#`, and so do wider ones. -/
theorem filterMatches_meaning_wider :
    filterMatches "a/b/#" "a/b" = true ∧ filterMatches "a/+/#" "a/b" = true ∧
      filterMatches "a/#" "a/b" = true := by
  have matched : filterMatches "a/b/#" "a/b" = true := by decide
  obtain ⟨-, -, wider⟩ := filterMatches_meaning "a/b/#" "a/b"
  have plus := (wider matched).1 1 ['b'] (by decide) (by decide)
  have hash := (wider matched).2 1 (by decide)
  exact ⟨matched, plus, hash⟩

end Courier
