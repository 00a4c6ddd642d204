import Courier.Fault
import Courier.Proofs.Topic.Meaning

/-!
# What the checks of filters and topics let through

A filter passes its check if it takes in some topic that passes its own, so no subscription is
accepted that can never receive anything, and none refused that could. A topic is a filter without
wildcards and takes in itself only. A filter that is refused is refused for its first flawed level.
-/

namespace Courier

/-- What is wrong with a level of a filter, the last one or another. A `#` out of its place comes
before a `+`. -/
inductive LevelFlaw (l : Level) (last : Prop) : TopicFlaw → Prop where
  | hash (has : '#' ∈ l) (misused : ¬ (l = anyLevels ∧ last)) : LevelFlaw l last .misplacedHash
  | plus (used : '#' ∈ l → l = anyLevels ∧ last) (has : '+' ∈ l) (misused : l ≠ anyLevel) :
      LevelFlaw l last .misplacedPlus

/-- What is wrong with the level in a place. -/
def FlawAt (fs : List Level) (i : Nat) (flaw : TopicFlaw) : Prop :=
  ∃ l, fs[i]? = some l ∧ LevelFlaw l (i + 1 = fs.length) flaw

/-- Whether nothing is wrong with a level. -/
def IsFlawless (l : Level) (last : Prop) : Prop :=
  ('#' ∈ l → l = anyLevels ∧ last) ∧ ('+' ∈ l → l = anyLevel)

/-- A level without the characters that wildcards are made of. -/
def IsLiteral (l : Level) : Prop := '+' ∉ l ∧ '#' ∉ l

/-- A level that a level of a filter takes in. -/
def sampleOf (l : Level) : Level := if l = anyLevel ∨ l = anyLevels then ['x'] else l

variable {f t l : Level} {fs ts : List Level} {flaw : TopicFlaw} {last : Prop}
  {filter topic : String}

/-! ## The first flawed level -/

theorem flawAt_zero : FlawAt (f :: fs) 0 flaw ↔ LevelFlaw f (fs = []) flaw := by
  simp [FlawAt]

theorem flawAt_succ {i : Nat} : FlawAt (f :: fs) (i + 1) flaw ↔ FlawAt fs i flaw := by
  simp [FlawAt]

theorem isFlawless_iff : IsFlawless l last ↔ ∀ flaw, ¬ LevelFlaw l last flaw := by
  constructor
  · rintro ⟨hash, plus⟩ flaw wrong
    cases wrong with
    | hash has misused => exact misused (hash has)
    | plus used has misused => exact misused (plus has)
  · intro none
    have hash : '#' ∈ l → l = anyLevels ∧ last := fun has =>
      Classical.byContradiction fun misused => none _ (.hash has misused)
    exact ⟨hash, fun has => Classical.byContradiction fun misused =>
      none _ (.plus hash has misused)⟩

theorem levelsFlaw?_cons : levelsFlaw? (f :: fs) = some flaw ↔
    LevelFlaw f (fs = []) flaw ∨ IsFlawless f (fs = []) ∧ levelsFlaw? fs = some flaw := by
  constructor
  · intro h
    rw [levelsFlaw?] at h
    split at h
    · rename_i hash
      cases h
      exact .inl (.hash hash.1 hash.2)
    · rename_i hash
      have used : '#' ∈ f → f = anyLevels ∧ fs = [] := fun has =>
        Classical.byContradiction fun misused => hash ⟨has, misused⟩
      split at h
      · rename_i plus
        cases h
        exact .inl (.plus used plus.1 plus.2)
      · rename_i plus
        exact .inr ⟨⟨used, fun has => Classical.byContradiction fun misused =>
          plus ⟨has, misused⟩⟩, h⟩
  · rintro (wrong | ⟨flawless, tail⟩)
    · cases wrong with
      | hash has misused => rw [levelsFlaw?, if_pos ⟨has, misused⟩]
      | plus used has misused =>
        rw [levelsFlaw?, if_neg fun hash => hash.2 (used hash.1), if_pos ⟨has, misused⟩]
    · rw [levelsFlaw?, if_neg fun hash => hash.2 (flawless.1 hash.1),
        if_neg fun plus => plus.2 (flawless.2 plus.1), tail]

theorem levelsFlaw?_cons_eq_none :
    levelsFlaw? (f :: fs) = none ↔ IsFlawless f (fs = []) ∧ levelsFlaw? fs = none := by
  simp only [Option.eq_none_iff_forall_ne_some, ne_eq, levelsFlaw?_cons, not_or, not_and]
  rw [forall_and, ← isFlawless_iff]
  exact and_congr_right fun flawless => forall_congr' fun _ => imp_iff_right flawless

/-- The flaw that is found is that of the first flawed level. -/
theorem levelsFlaw?_eq_some_iff : levelsFlaw? fs = some flaw ↔
    ∃ i, FlawAt fs i flaw ∧ ∀ j < i, ∀ other, ¬ FlawAt fs j other := by
  induction fs with
  | nil => simp [levelsFlaw?, FlawAt]
  | cons f fs ih =>
    rw [levelsFlaw?_cons, ih]
    constructor
    · rintro (head | ⟨flawless, i, tail, first⟩)
      · exact ⟨0, flawAt_zero.mpr head, fun j before => absurd before (Nat.not_lt_zero j)⟩
      · refine ⟨i + 1, flawAt_succ.mpr tail, fun j before other => ?_⟩
        cases j with
        | zero => exact fun wrong => isFlawless_iff.mp flawless other (flawAt_zero.mp wrong)
        | succ j =>
          exact fun wrong =>
            first j (Nat.lt_of_succ_lt_succ before) other (flawAt_succ.mp wrong)
    · rintro ⟨i, wrong, first⟩
      cases i with
      | zero => exact .inl (flawAt_zero.mp wrong)
      | succ i =>
        refine .inr ⟨isFlawless_iff.mpr fun other head => ?_, i, flawAt_succ.mp wrong,
          fun j before other tail => ?_⟩
        · exact first 0 (Nat.succ_pos i) other (flawAt_zero.mpr head)
        · exact first (j + 1) (Nat.succ_lt_succ before) other (flawAt_succ.mpr tail)

/-! ## Filters and the topics they take in -/

theorem not_isWild (literal : IsLiteral l) : ¬ IsWild l := by
  rintro (rfl | rfl)
  · exact literal.1 (by decide)
  · exact literal.2 (by decide)

theorem IsFlawless.isLiteral (flawless : IsFlawless l last) (plain : ¬ IsWild l) : IsLiteral l :=
  ⟨fun has => plain (.inl (flawless.2 has)), fun has => plain (.inr (flawless.1 has).1)⟩

theorem IsLiteral.isFlawless (literal : IsLiteral l) : IsFlawless l last :=
  ⟨fun has => absurd has literal.2, fun has => absurd has literal.1⟩

theorem flawless_of_literal (literal : ∀ l ∈ fs, IsLiteral l) : levelsFlaw? fs = none := by
  induction fs with
  | nil => rfl
  | cons f fs ih =>
    rw [List.forall_mem_cons] at literal
    exact levelsFlaw?_cons_eq_none.mpr ⟨literal.1.isFlawless, ih literal.2⟩

theorem literal_of_flawless (flawless : levelsFlaw? fs = none) (plain : ∀ l ∈ fs, ¬ IsWild l) :
    ∀ l ∈ fs, IsLiteral l := by
  induction fs with
  | nil => nofun
  | cons f fs ih =>
    obtain ⟨head, tail⟩ := levelsFlaw?_cons_eq_none.mp flawless
    rw [List.forall_mem_cons] at plain ⊢
    exact ⟨head.isLiteral plain.1, ih tail plain.2⟩

/-- A filter that takes in a topic without wildcards has no flaw. -/
theorem flawless_of_takesIn (taken : TakesIn fs ts) (literal : ∀ t ∈ ts, IsLiteral t) :
    levelsFlaw? fs = none := by
  induction fs generalizing ts with
  | nil => rfl
  | cons f fs ih =>
    by_cases hash : f = anyLevels
    · subst f
      obtain rfl := takesIn_anyLevels.mp taken
      rfl
    · cases ts with
      | nil => exact absurd taken (not_takesIn_nil hash)
      | cons t ts =>
        rw [List.forall_mem_cons] at literal
        obtain ⟨covers, rest⟩ := (takesIn_cons hash).mp taken
        refine levelsFlaw?_cons_eq_none.mpr ⟨?_, ih rest literal.2⟩
        rcases covers with rfl | rfl
        · exact ⟨fun has => absurd has (by decide), fun _ => rfl⟩
        · exact literal.1.isFlawless

theorem isLiteral_sampleOf (flawless : IsFlawless l last) : IsLiteral (sampleOf l) := by
  unfold sampleOf
  split
  · exact ⟨by decide, by decide⟩
  · rename_i plain
    exact flawless.isLiteral plain

theorem sampleOf_eq_nil (nil : sampleOf l = []) : l = [] := by
  unfold sampleOf at nil
  split at nil
  · cases nil
  · exact nil

theorem slash_not_mem_sampleOf (whole : '/' ∉ l) : '/' ∉ sampleOf l := by
  unfold sampleOf
  split
  · decide
  · exact whole

/-- Every filter without a flaw takes in some topic without wildcards. -/
theorem takesIn_sample (flawless : levelsFlaw? fs = none) :
    TakesIn fs (fs.map sampleOf) ∧ ∀ l ∈ fs.map sampleOf, IsLiteral l := by
  induction fs with
  | nil => exact ⟨takesIn_nil_left.mpr rfl, nofun⟩
  | cons f fs ih =>
    obtain ⟨head, tail⟩ := levelsFlaw?_cons_eq_none.mp flawless
    obtain ⟨taken, literal⟩ := ih tail
    rw [List.map_cons, List.forall_mem_cons]
    refine ⟨?_, isLiteral_sampleOf head, literal⟩
    by_cases hash : f = anyLevels
    · -- A `#` without a flaw is the last level, and takes in what stands in its place.
      subst f
      exact takesIn_anyLevels.mpr (head.1 (by decide)).2
    · refine (takesIn_cons hash).mpr ⟨?_, taken⟩
      by_cases plus : f = anyLevel
      · exact .inl plus
      · exact .inr (if_neg (not_or.mpr ⟨plus, hash⟩)).symm

/-! ## The checks -/

theorem mem_toList_iff {c : Char} (other : c ≠ '/') (text : String) :
    c ∈ text.toList ↔ ∃ l ∈ levels text, c ∈ l := by
  rw [levels, mem_splitOn_iff]
  exact (and_iff_right other).symm

theorem checkTopic_eq_ok_iff :
    checkTopic topic = .ok () ↔ topic ≠ "" ∧ ∀ l ∈ levels topic, IsLiteral l := by
  have plain : (∀ l ∈ levels topic, IsLiteral l) ↔
      ¬ ('+' ∈ topic.toList ∨ '#' ∈ topic.toList) := by
    rw [mem_toList_iff (by decide), mem_toList_iff (by decide)]
    simp [IsLiteral, not_or, forall_and]
  rw [plain, checkTopic, topicFlaw?]
  by_cases empty : topic = ""
  · simp [empty]
  · by_cases wild : '+' ∈ topic.toList ∨ '#' ∈ topic.toList <;> simp [empty, wild]

theorem checkFilter_eq_ok_iff :
    checkFilter filter = .ok () ↔ filter ≠ "" ∧ levelsFlaw? (levels filter) = none := by
  rw [checkFilter, filterFlaw?]
  by_cases empty : filter = ""
  · simp [empty]
  · cases levelsFlaw? (levels filter) <;> simp [empty]

theorem checkFilter_eq_error_iff (nonempty : filter ≠ "") {fault : Fault} :
    checkFilter filter = .error fault ↔ ∃ flaw, levelsFlaw? (levels filter) = some flaw ∧
      fault = .invalidTopic filter flaw.reason := by
  rw [checkFilter, filterFlaw?, if_neg nonempty]
  cases levelsFlaw? (levels filter) <;> simp [eq_comm]

theorem hasWildcards_eq_false_iff (text : String) :
    hasWildcards text = false ↔ ∀ l ∈ levels text, ¬ IsWild l := by
  rw [← Bool.not_eq_true, hasWildcards_iff]
  simp

/-- A topic is a filter without wildcards. -/
theorem checkTopic_iff_plain (text : String) :
    checkTopic text = .ok () ↔ checkFilter text = .ok () ∧ hasWildcards text = false := by
  rw [checkTopic_eq_ok_iff, checkFilter_eq_ok_iff, hasWildcards_eq_false_iff, and_assoc]
  refine and_congr_right fun _ => ⟨fun literal => ?_, fun ⟨flawless, plain⟩ => ?_⟩
  · exact ⟨flawless_of_literal literal, fun l there => not_isWild (literal l there)⟩
  · exact literal_of_flawless flawless plain

/-- What a topic takes in as a filter is itself. -/
theorem filterMatches_of_topic {text : String} (checked : checkTopic text = .ok ())
    (topic : String) : filterMatches text topic = true ↔ topic = text := by
  rw [filterMatches_iff_eq ((checkTopic_iff_plain text).mp checked).2, eq_comm]

/-- A filter passes its check if there is a topic for it. -/
theorem checkFilter_iff_takesIn (filter : String) : checkFilter filter = .ok () ↔
    ∃ topic, checkTopic topic = .ok () ∧ filterMatches filter topic = true := by
  constructor
  · intro checked
    obtain ⟨nonempty, flawless⟩ := checkFilter_eq_ok_iff.mp checked
    obtain ⟨taken, literal⟩ := takesIn_sample flawless
    have same := levels_ofLevels (mt List.map_eq_nil_iff.mp (levels_ne_nil filter))
      (List.forall_mem_map.mpr fun l there => slash_not_mem_sampleOf (slash_not_mem there))
    refine ⟨ofLevels ((levels filter).map sampleOf), checkTopic_eq_ok_iff.mpr ⟨?_, ?_⟩, ?_⟩
    · intro empty
      rw [empty] at same
      obtain ⟨l, only, nil⟩ := List.map_eq_singleton_iff.mp same.symm
      rw [sampleOf_eq_nil nil] at only
      exact nonempty (levels_injective only)
    · rwa [same]
    · rwa [filterMatches, levelsMatch_iff_takesIn, same]
  · rintro ⟨topic, checked, matched⟩
    obtain ⟨nonempty, literal⟩ := checkTopic_eq_ok_iff.mp checked
    refine checkFilter_eq_ok_iff.mpr ⟨?_, ?_⟩
    · rintro rfl
      exact nonempty ((filterMatches_iff_eq rfl).mp matched).symm
    · exact flawless_of_takesIn ((levelsMatch_iff_takesIn _ _).mp matched) literal

/-- The checks of filters and topics accept what the matching of filters can use, and a filter is
refused for its first flawed level. -/
theorem checks_fit (text : String) :
    (checkFilter text = .ok () ↔
      ∃ topic, checkTopic topic = .ok () ∧ filterMatches text topic = true) ∧
    (checkTopic text = .ok () ↔ checkFilter text = .ok () ∧ hasWildcards text = false) ∧
    (checkTopic text = .ok () → ∀ topic, filterMatches text topic = true ↔ topic = text) ∧
    (text ≠ "" → ∀ fault, checkFilter text = .error fault ↔
      ∃ i flaw, FlawAt (levels text) i flaw ∧
        (∀ j < i, ∀ other, ¬ FlawAt (levels text) j other) ∧
        fault = .invalidTopic text flaw.reason) := by
  refine ⟨checkFilter_iff_takesIn text, checkTopic_iff_plain text, filterMatches_of_topic,
    fun nonempty fault => ?_⟩
  rw [checkFilter_eq_error_iff nonempty]
  simp only [levelsFlaw?_eq_some_iff]
  constructor
  · rintro ⟨flaw, ⟨i, wrong, first⟩, same⟩
    exact ⟨i, flaw, wrong, first, same⟩
  · rintro ⟨i, flaw, wrong, first, same⟩
    exact ⟨flaw, ⟨i, wrong, first⟩, same⟩

/-- The second level is the first flawed one, and has both characters out of place. -/
theorem checks_fit_secondLevel :
    "+/b+#/#" ≠ "" ∧ checkTopic "b" = .ok () ∧
      (∀ topic, filterMatches "b" topic = true ↔ topic = "b") ∧
      checkFilter "+/b+#/#" = .error (.invalidTopic "+/b+#/#" TopicFlaw.misplacedHash.reason) := by
  have nonempty : "+/b+#/#" ≠ "" := by decide
  have checked : checkTopic "b" = .ok () := rfl
  have split : levels "+/b+#/#" = [['+'], ['b', '+', '#'], ['#']] := by decide
  refine ⟨nonempty, checked, (checks_fit "b").2.2.1 checked,
    ((checks_fit "+/b+#/#").2.2.2 nonempty _).mpr ⟨1, .misplacedHash, ?_, ?_, rfl⟩⟩
  · rw [split, flawAt_succ, flawAt_zero]
    exact .hash (by decide) (by decide)
  · intro j before other
    obtain rfl := Nat.lt_one_iff.mp before
    rw [split, flawAt_zero]
    exact isFlawless_iff.mp ⟨fun has => absurd has (by decide), fun _ => rfl⟩ other

end Courier
