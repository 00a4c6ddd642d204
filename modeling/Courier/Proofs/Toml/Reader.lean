import Mathlib.Data.List.Basic
import Courier.Toml.Reader

/-!
# What readers take off

What `many` reads is told piece by piece, so that its bound need not be looked at again. The parts
of a document that say nothing are blanks, line ends, comments and gaps of all of them; each is
described apart from its reader.
-/

namespace Courier.Toml

/-- What a reader takes off the front of a text, piece by piece, until it refuses. -/
inductive ReadsAll {α : Type} (item : Reader α) : List Char → List α → List Char → Prop where
  | stop {s : List Char} (refused : item s = none) : ReadsAll item s [] s
  | next {s rest final : List Char} {a : α} {as : List α} (read : item s = some (a, rest))
      (shorter : rest.length < s.length) (onward : ReadsAll item rest as final) :
      ReadsAll item s (a :: as) final

theorem manyUpTo_eq {α : Type} {item : Reader α} {s final : List Char} {as : List α}
    (h : ReadsAll item s as final) {n : Nat} (enough : s.length ≤ n) :
    manyUpTo item n s = (as, final) := by
  induction h generalizing n with
  | stop refused =>
    cases n with
    | zero => rfl
    | succ n => simp [manyUpTo, refused]
  | next read shorter _ ih =>
    cases n with
    | zero => omega
    | succ n => simp [manyUpTo, read, ih (show _ ≤ n by omega)]

theorem ReadsAll.many_eq {α : Type} {item : Reader α} {s final : List Char} {as : List α}
    (h : ReadsAll item s as final) : many item s = (as, final) :=
  manyUpTo_eq h (Nat.le_refl _)

theorem ReadsAll.of_nil {α : Type} {item : Reader α} {s final : List Char}
    (h : ReadsAll item s [] final) : item s = none ∧ final = s := by
  cases h with
  | stop refused => exact ⟨refused, rfl⟩

theorem ReadsAll.of_cons {α : Type} {item : Reader α} {s final : List Char} {a : α} {as : List α}
    (h : ReadsAll item s (a :: as) final) : item s ≠ none := by
  cases h with
  | next read => simp [read]

theorem expect_self (c : Char) (rest : List Char) : expect c (c :: rest) = some rest := by
  simp [expect]

theorem expect_of_ne {c : Char} {s : List Char} (h : s.head? ≠ some c) : expect c s = none := by
  cases s with
  | nil => rfl
  | cons d s => simpa [expect] using h

/-- What stands before a separator that nothing readable follows. -/
theorem separated_of_readsAll {α : Type} {item : Reader α} {c : Char} {s r final : List Char}
    {a : α} {as : List α} (first : item s = some (a, r))
    (others : ReadsAll (fun s => expect c s >>= item) r as final) :
    separated item c s = some (a :: as, final) := by
  have all := others.many_eq
  simp only [separated, first, bind, Option.bind_some] at all ⊢
  rw [all]
  rfl

theorem dropWhile_eq_right {p : Char → Bool} {s rest : List Char} (inside : ∀ c ∈ s, p c = true)
    (stop : ∀ c, rest.head? = some c → p c = false) : (s ++ rest).dropWhile p = rest := by
  rw [List.dropWhile_append_of_pos inside]
  cases rest with
  | nil => rfl
  | cons c rest => exact List.dropWhile_cons_of_neg (by simp [stop c rfl])

/-! ## Blanks, line ends and comments -/

/-- Nothing but blanks. -/
def Blanks (s : List Char) : Prop := ∀ c ∈ s, isBlank c = true

inductive Newline : List Char → Prop where
  | feed : Newline ['\n']
  | both : Newline ['\r', '\n']

/-- What may stand before the end of a line: blanks, and a comment after them. -/
inductive Remark : List Char → Prop where
  | blanks {b : List Char} (blanks : Blanks b) : Remark b
  | comment {b s : List Char} (blanks : Blanks b) (plain : ∀ c ∈ s, isPlain c = true) :
      Remark (b ++ '#' :: s)

/-- Blanks and line ends, and comments where they are allowed. -/
inductive Gap (comments : Bool) : List Char → Prop where
  | nil : Gap comments []
  | blank {c : Char} {g : List Char} (blank : isBlank c = true) (more : Gap comments g) :
      Gap comments (c :: g)
  | newline {l g : List Char} (ends : Newline l) (more : Gap comments g) : Gap comments (l ++ g)
  | comment {s l g : List Char} (allowed : comments = true) (plain : ∀ c ∈ s, isPlain c = true)
      (ends : Newline l) (more : Gap comments g) : Gap comments ('#' :: s ++ (l ++ g))

theorem Blanks.nil : Blanks [] := fun _ h => absurd h List.not_mem_nil

theorem Blanks.single {c : Char} (h : isBlank c = true) : Blanks [c] := by
  intro d hd
  rwa [List.mem_singleton.mp hd]

theorem Newline.read {l : List Char} (h : Newline l) (s : List Char) :
    newline (l ++ s) = some s := by
  cases h <;> rfl

theorem Newline.length_pos {l : List Char} (h : Newline l) : 0 < l.length := by
  cases h <;> simp

theorem Newline.exists_head {l : List Char} (h : Newline l) :
    ∃ c m, l = c :: m ∧ (c = '\n' ∨ c = '\r') := by
  cases h
  · exact ⟨_, _, rfl, .inl rfl⟩
  · exact ⟨_, _, rfl, .inr rfl⟩

theorem skipBlank_append {b : List Char} (h : Blanks b) (s : List Char) :
    skipBlank (b ++ s) = skipBlank s :=
  List.dropWhile_append_of_pos h

theorem skipBlank_skipBlank (s : List Char) : skipBlank (skipBlank s) = skipBlank s := by
  induction s with
  | nil => rfl
  | cons c s ih =>
    by_cases blank : isBlank c = true
    · rw [skipBlank, skipBlank, List.dropWhile_cons_of_pos blank]
      exact ih
    · rw [skipBlank, skipBlank, List.dropWhile_cons_of_neg blank,
        List.dropWhile_cons_of_neg blank]

theorem skipBlank_of_head {s : List Char} (h : ∀ c, s.head? = some c → isBlank c = false) :
    skipBlank s = s := by
  cases s with
  | nil => rfl
  | cons c s => exact List.dropWhile_cons_of_neg (by simp [h c rfl])

theorem skipBlank_cons {c : Char} (h : isBlank c = false) (s : List Char) :
    skipBlank (c :: s) = c :: s :=
  skipBlank_of_head fun _ same => Option.some.inj same ▸ h

/-- A line ends after a remark, with a line end or with the text. -/
theorem Remark.lineEnd {a : List Char} (h : Remark a) :
    lineEnd a = some [] ∧
      ∀ l rest, Newline l → lineEnd (a ++ (l ++ rest)) = some rest := by
  cases h with
  | blanks blanks =>
    constructor
    · have none := skipBlank_append blanks []
      rw [List.append_nil] at none
      rw [Toml.lineEnd, none]
      rfl
    · intro l rest ends
      rw [Toml.lineEnd, skipBlank_append blanks]
      cases ends <;> rfl
  | @comment b s blanks plain =>
    have dropped (rest : List Char) (stop : rest.dropWhile isPlain = rest) :
        skipComment (skipBlank (b ++ '#' :: s ++ rest)) = rest := by
      rw [List.append_assoc, skipBlank_append blanks, List.cons_append,
        skipBlank_cons (by decide), skipComment, List.dropWhile_append_of_pos plain, stop]
    constructor
    · have none := dropped [] rfl
      rw [List.append_nil] at none
      rw [Toml.lineEnd, none]
    · intro l rest ends
      cases ends
      · rw [Toml.lineEnd, dropped _ rfl]
        rfl
      · rw [Toml.lineEnd, dropped _ rfl]
        rfl

theorem Remark.visible {a l : List Char} (h : Remark a) (ends : Newline l) (rest : List Char) :
    skipBlank (a ++ (l ++ rest)) ≠ [] := by
  cases h with
  | blanks blanks =>
    rw [skipBlank_append blanks]
    cases ends
    · exact List.cons_ne_nil '\n' rest
    · exact List.cons_ne_nil '\r' ('\n' :: rest)
  | comment blanks =>
    rw [List.append_assoc, skipBlank_append blanks, List.cons_append, skipBlank_cons (by decide)]
    exact List.cons_ne_nil _ _

/-! ## Gaps -/

/-- A gap ends where nothing can go on with it. -/
theorem Gap.skipGaps {g : List Char} (h : Gap true g) {s : List Char} (stop : gap s = none) :
    skipGaps (g ++ s) = s := by
  have all : ∃ steps, ReadsAll gap (g ++ s) steps s := by
    induction h with
    | nil => exact ⟨[], .stop stop⟩
    | @blank c g blank _ ih =>
      obtain ⟨steps, onward⟩ := ih
      have other : c ≠ '#' := by
        rintro rfl
        cases blank
      refine ⟨() :: steps, .next ?_ (by simp) onward⟩
      rw [List.cons_append, gap]
      · exact if_pos blank
      · exact other
    | @newline l g ends _ ih =>
      obtain ⟨steps, onward⟩ := ih
      have longer := ends.length_pos
      refine ⟨() :: steps, .next ?_ ?_ onward⟩
      · cases ends <;> rfl
      · simp only [List.length_append]
        omega
    | @comment t l g _ plain ends _ ih =>
      obtain ⟨steps, onward⟩ := ih
      have longer := ends.length_pos
      have ended : ReadsAll gap (l ++ g ++ s) (() :: steps) s := by
        refine .next ?_ ?_ onward
        · cases ends <;> rfl
        · simp only [List.length_append]
          omega
      refine ⟨() :: () :: steps, .next ?_ ?_ ended⟩
      · rw [List.append_assoc, List.cons_append, gap, List.dropWhile_append_of_pos plain]
        cases ends <;> rfl
      · simp only [List.length_append, List.length_cons]
        omega
  obtain ⟨steps, reads⟩ := all
  rw [Toml.skipGaps, reads.many_eq]

/-! ## The end of a value -/

/-- The characters before which a value can end. -/
def delimiters : List Char := [' ', '\t', '\n', '\r', '#', ',', ']', '\x7d']

/-- What may follow a value: after blanks, the end of the line, a comment, or what goes on in an
array or a table. -/
def Ends (rest : List Char) : Prop :=
  ∀ c, (skipBlank rest).head? = some c → c ∈ ['\n', '\r', '#', ',', ']', '\x7d']

theorem Ends.mem_delimiters {rest : List Char} (h : Ends rest) {c : Char}
    (first : rest.head? = some c) : c ∈ delimiters := by
  obtain ⟨s, rfl⟩ := List.head?_eq_some_iff.mp first
  by_cases blank : isBlank c = true
  · simp only [isBlank, Bool.or_eq_true, decide_eq_true_eq] at blank
    rcases blank with rfl | rfl <;> decide
  · rw [Bool.not_eq_true] at blank
    have next := h c (by rw [skipBlank_cons blank, List.head?_cons])
    exact List.mem_cons_of_mem _ (List.mem_cons_of_mem _ next)

/-- No character of a class follows a value if no delimiter is in the class. -/
theorem Ends.other {rest : List Char} (h : Ends rest) {p : Char → Bool}
    (clear : delimiters.any p = false) {c : Char} (first : rest.head? = some c) : p c = false :=
  Bool.eq_false_iff.mpr (List.any_eq_false.mp clear c (h.mem_delimiters first))

theorem Ends.ne {rest : List Char} (h : Ends rest) {d : Char} (other : d ∉ delimiters) :
    rest.head? ≠ some d := fun first => other (h.mem_delimiters first)

theorem Ends.blanks {b rest : List Char} (blanks : Blanks b) (h : Ends rest) :
    Ends (b ++ rest) := by
  rw [Ends, skipBlank_append blanks]
  exact h

theorem Ends.cons {c : Char} (h : c ∈ ['\n', '\r', '#', ',', ']', '\x7d']) (rest : List Char) :
    Ends (c :: rest) := by
  intro d first
  have visible : ∀ d ∈ ['\n', '\r', '#', ',', ']', '\x7d'], isBlank d = false :=
    List.forall_iff_forall_mem.mp (by decide)
  rw [skipBlank_cons (visible c h), List.head?_cons, Option.some_inj] at first
  rwa [← first]

end Courier.Toml
